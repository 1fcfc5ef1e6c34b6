/-!
# Flaws of compressed bytes

Why compressed bytes stand for no bytes. What was made of them before the flaw can remain.
-/

namespace FileQuery

/-- What a repetition of bytes reaches beyond. -/
inductive Reach
  /-- The window that repetitions can reach. -/
  | window
  /-- The bytes that have been made so far. -/
  | result
  deriving DecidableEq, Repr

/-- What is reached beyond, in words. -/
def Reach.words : Reach → String
  | window => "dictionary size"
  | result => "output size"

/-- Why compressed bytes stand for no bytes. -/
inductive CompressionFlaw
  /-- The bytes do not have the checksum that they should have. -/
  | checksum
  | deflateCorrupt
  | deflateIncomplete
  | deflate64Corrupt
  | bzipHeader
  | bzipCorrupt
  | bzipIncomplete
  | xzHeader
  | xzOptions
  | xzCorrupt
  | xzIncomplete
  /-- Bytes follow the end of the stream. -/
  | xzTrailing
  /-- The mark of a frame is missing. -/
  | frameMark
  /-- A frame makes use of what is not supported. -/
  | frameFeature
  /-- A frame asks for too large a window. -/
  | frameWindow
  /-- A frame asks for a dictionary. -/
  | frameDictionary
  /-- A block uses a code again before there is one. -/
  | frameCode
  | frameCorrupt
  /-- The bytes of a frame do not have its checksum. -/
  | frameChecksum
  | frameIncomplete
  /-- A byte tells no shape of contexts. -/
  | lzmaShape (byte : Nat)
  /-- A byte to be compared is at a distance beyond what has a size. -/
  | lzmaFarByte (distance : Nat) (reach : Reach) (size : Nat)
  /-- A repetition is at a distance beyond what has a size. -/
  | lzmaFarRepetition (distance : Nat) (reach : Reach) (size : Nat)
  /-- Bytes follow the symbol that stands for the end. -/
  | lzmaEnding
  /-- Bytes follow when the result has its size. -/
  | lzmaTrailing
  deriving DecidableEq, Repr

namespace CompressionFlaw

/-- The description of a flaw that is found among symbols. -/
def ofSymbols (words : String) : String := "LzmaError(\"" ++ words ++ "\")"

/-- The description of a distance that is too far. -/
def ofDistance (what : String) (distance : Nat) (reach : Reach) (size : Nat) : String :=
  ofSymbols (what ++ " distance " ++ toString distance ++ " is beyond " ++ reach.words ++ " "
    ++ toString size)

/-- The description of a flaw. -/
def message : CompressionFlaw → String
  | checksum => "Invalid checksum"
  | deflateCorrupt => "corrupt deflate stream"
  | deflateIncomplete => "incomplete deflate stream"
  | deflate64Corrupt => "invalid deflate64"
  | bzipHeader => "bzip2: bz2 header missing"
  | bzipCorrupt => "bzip2: invalid data"
  | bzipIncomplete => "decompression not finished but EOF reached"
  | xzHeader => "stream/file format not recognized"
  | xzOptions => "invalid options"
  | xzCorrupt => "lzma data error"
  | xzIncomplete => "premature eof"
  | xzTrailing => "corrupt xz stream"
  | frameMark => "Unknown frame descriptor"
  | frameFeature => "Unsupported frame parameter"
  | frameWindow => "Frame requires too much memory for decoding"
  | frameDictionary => "Dictionary mismatch"
  | frameCode => "Dictionary is corrupted"
  | frameCorrupt => "Data corruption detected"
  | frameChecksum => "Restored data doesn't match checksum"
  | frameIncomplete => "incomplete frame"
  | lzmaShape byte => "LZMA header invalid properties: " ++ toString byte ++ " must be < 225"
  | lzmaFarByte distance reach size => ofDistance "Match" distance reach size
  | lzmaFarRepetition distance reach size => ofDistance "LZ" distance reach size
  | lzmaEnding => ofSymbols "Found end-of-stream marker but more bytes are available"
  | lzmaTrailing => "failed to write whole buffer"

end CompressionFlaw

/-- The bytes that come of compressed bytes, and the flaw that ends them, if one does. -/
abbrev Decompressed := List UInt8 × Option CompressionFlaw

namespace Compression

/-- What remains of bytes when they are handed on in whole pieces of a size. -/
def wholePieces (size : Nat) (bytes : List UInt8) : List UInt8 :=
  bytes.take (bytes.length / size * size)

/-- The size of the pieces in which bytes are handed on. -/
def pieceSize : Nat := 0x2000

end Compression

end FileQuery
