import FileQuery.Media.Picture.DirectDraw
import FileQuery.Media.Picture.Simple
import FileQuery.Media.Picture.Gif
import FileQuery.Media.Picture.Icon
import FileQuery.Media.Picture.Jpeg
import FileQuery.Media.Picture.Portable
import FileQuery.Media.Picture.Radiance
import FileQuery.Media.Picture.Targa
import FileQuery.Media.Picture.Tiff
import FileQuery.Media.Picture.WebP
import FileQuery.Text.Literal

/-!
# Pictures

A picture is read in the format that its extension names. One that can be read is kept byte for
byte under its new name; of one that cannot, the first flaw is told.
-/

namespace FileQuery

/-- The formats of pictures. -/
inductive PictureFormat
  | av1
  | bitmap
  | directDraw
  | farbfeld
  | gif
  | icon
  | jpeg
  | openExr
  | png
  | portable
  | quiteOk
  | radiance
  | targa
  | tiff
  | webP
  deriving DecidableEq, Repr

namespace PictureFormat

/-- The formats by extension. -/
def extensions : List (String × PictureFormat) := [
  ("avif", av1), ("jpg", jpeg), ("jpeg", jpeg), ("jfif", jpeg), ("png", png), ("apng", png),
  ("gif", gif), ("webp", webP), ("tif", tiff), ("tiff", tiff), ("tga", targa),
  ("dds", directDraw), ("bmp", bitmap), ("ico", icon), ("hdr", radiance), ("exr", openExr),
  ("pbm", portable), ("pam", portable), ("ppm", portable), ("pgm", portable), ("pnm", portable),
  ("ff", farbfeld), ("qoi", quiteOk)]

/-- The format that the extension of a path names. -/
def ofPath (path : Path) : Except ConversionError PictureFormat :=
  match path.extension? with
  | none => .error (.unsupported "The image format could not be determined")
  | some extension =>
    match extensions.lookup (String.ofList (Conversion.lowered extension)) with
    | some format => .ok format
    | none =>
      .error (.unsupported ("The file extension \x60." ++ Text.literal extension ++
        "\x60 was not recognized as an image format"))

open Picture in
/-- The check that bytes are a picture of a format. -/
def check : PictureFormat → Check Unit
  | av1 => throw (.unsupported "The image format Avif is not supported")
  | bitmap => Bitmap.read.named "Bmp" Bitmap.Reason.words
  | directDraw => DirectDraw.read.named "Dds" DirectDraw.Reason.words
  | farbfeld => Farbfeld.read.named "Farbfeld" Farbfeld.Reason.words
  | gif => Gif.read.named "Gif" Gif.Reason.words
  | icon => Icon.check
  | jpeg => Jpeg.read.named "Jpeg" Jpeg.Reason.words
  | openExr => OpenExr.read.named "OpenExr" OpenExr.Reason.words
  | png => Png.read.named "Png" Png.Reason.words
  | portable => Portable.read.named "Pnm" Portable.Reason.words
  | quiteOk => QuiteOk.read.named "Qoi" QuiteOk.Reason.words
  | radiance => Radiance.read.named "Hdr" Radiance.Reason.words
  | targa => Targa.read.named "Tga" Targa.Reason.words
  | tiff => Tiff.read.named "Tiff" Tiff.Reason.words
  | webP => WebP.read.named "WebP" WebP.Reason.words

/-- Reads the picture of a file and keeps it in another file. -/
def convert (input output : Path) : Changes ConversionError Unit := do
  let bytes ← Changes.look fun tree => (tree.read input).mapError ConversionError.file
  let format ← ExceptT.mk (pure (ofPath input))
  ExceptT.mk (pure (format.check.run bytes))
  Changes.ofChange fun tree => (tree.write output bytes).mapError ConversionError.file

end PictureFormat

end FileQuery
