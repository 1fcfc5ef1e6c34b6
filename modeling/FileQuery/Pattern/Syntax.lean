import FileQuery.Pattern.Flaw

/-!
# Syntax of patterns

The tree of a pattern as it is written. Every part keeps the stretch that it was read from,
because some flaws are found only when the meaning of a part is asked for.
-/

namespace FileQuery.Pattern

/-- A character of a pattern, written as it is or escaped. -/
structure Literal where
  span : Span
  character : Char
  /-- Whether it was written as `\x` with two digits, which denotes a byte where patterns speak
      of bytes. -/
  byteEscape : Bool
  deriving DecidableEq, Repr

/-- The classes that a letter after a backslash stands for. -/
inductive LetterClass
  | digit | space | word
  deriving DecidableEq, Repr

/-- The classes that are written between `[:` and `:]`. -/
inductive NamedAscii
  | alnum | alpha | ascii | blank | cntrl | digit | graph | lower | print | punct | space | upper
  | word | xdigit
  deriving DecidableEq, Repr

/-- What is asked of a Unicode property: a name, or the value of a named property. -/
inductive PropertyQuery
  | named (name : String)
  | valued (name value : String)
  deriving DecidableEq, Repr

/-- The assertions about a place. -/
inductive Assertion
  | lineStart | lineEnd | textStart | textEnd
  | boundary | notBoundary | wordStart | wordEnd | wordStartHalf | wordEndHalf
  deriving DecidableEq, Repr

/-- The operators between sets. -/
inductive SetOperator
  | intersection | difference | symmetricDifference
  deriving DecidableEq, Repr

/-- What stands between the brackets of a class. -/
inductive ClassSet
  | empty (span : Span)
  | literal (literal : Literal)
  | range (span : Span) (low high : Literal)
  | ascii (span : Span) (kind : NamedAscii) (negated : Bool)
  | property (span : Span) (negated : Bool) (query : PropertyQuery)
  | letter (span : Span) (kind : LetterClass) (negated : Bool)
  | bracketed (span : Span) (negated : Bool) (set : ClassSet)
  | union (span : Span) (items : List ClassSet)
  | binary (span : Span) (operator : SetOperator) (left right : ClassSet)

/-- The stretch of a set. -/
def ClassSet.span : ClassSet → Span
  | empty span | range span .. | ascii span .. | property span .. | letter span ..
  | bracketed span .. | union span .. | binary span .. => span
  | literal l => l.span

/-- A part of a flag group: the minus that negates what follows, or a flag. -/
inductive FlagItem
  | negation
  | flag (letter : Char)
  deriving DecidableEq, Repr

/-- A pattern. -/
inductive Syntax
  | empty (span : Span)
  | flags (span : Span) (items : List FlagItem)
  | literal (literal : Literal)
  | dot (span : Span)
  | assertion (span : Span) (kind : Assertion)
  | property (span : Span) (negated : Bool) (query : PropertyQuery)
  | letter (span : Span) (kind : LetterClass) (negated : Bool)
  | bracketed (span : Span) (negated : Bool) (set : ClassSet)
  | repetition (span : Span) (least : Nat) (most : Option Nat) (body : Syntax)
  /-- A group, which may be one whose match is kept, and may set flags for its body. -/
  | group (span : Span) (captures : Bool) (flags : List FlagItem) (body : Syntax)
  | alternation (span : Span) (items : List Syntax)
  | concatenation (span : Span) (items : List Syntax)

/-- The stretch of a pattern. -/
def Syntax.span : Syntax → Span
  | empty span | flags span _ | dot span | assertion span _ | property span .. | letter span ..
  | bracketed span .. | repetition span .. | group span .. | alternation span _
  | concatenation span _ => span
  | literal l => l.span

/-- Whether a part can be repeated: there has to be something before a repetition sign, and a
    flag group is nothing. -/
def Syntax.repeatable : Syntax → Bool
  | empty _ | flags .. => false
  | _ => true

/-- The state that flag items give to a flag, if they mention it. -/
def flagState (letter : Char) : Bool → List FlagItem → Option Bool
  | _, [] => none
  | _, .negation :: rest => flagState letter false rest
  | on, .flag other :: rest => if other = letter then some on else flagState letter on rest

/-- The deepest nesting of groups, classes, repetitions and sequences that is accepted. -/
def nestLimit : Nat := 250

/-- One level deeper, if the limit allows it. -/
def deeper (depth : Nat) (span : Span) : Except Flaw Nat :=
  if depth < nestLimit then .ok (depth + 1)
  else .error { kind := .nestLimitExceeded nestLimit, span }

mutual

/-- Checks the nesting of a set, from left to right. -/
def ClassSet.checkDepth (depth : Nat) : ClassSet → Except Flaw Unit
  | .bracketed span _ set => do set.checkDepth (← deeper depth span)
  | .union span items => do ClassSet.checkDepths (← deeper depth span) items
  | .binary span _ left right => do
    let depth ← deeper depth span
    left.checkDepth depth
    right.checkDepth depth
  | _ => .ok ()

/-- Checks the nesting of sets. -/
def ClassSet.checkDepths (depth : Nat) : List ClassSet → Except Flaw Unit
  | [] => .ok ()
  | first :: rest => do
    first.checkDepth depth
    ClassSet.checkDepths depth rest

end

mutual

/-- Checks the nesting of a pattern, from left to right. -/
def Syntax.checkDepth (depth : Nat) : Syntax → Except Flaw Unit
  | .bracketed span _ set => do set.checkDepth (← deeper depth span)
  | .repetition span _ _ body => do body.checkDepth (← deeper depth span)
  | .group span _ _ body => do body.checkDepth (← deeper depth span)
  | .alternation span items => do Syntax.checkDepths (← deeper depth span) items
  | .concatenation span items => do Syntax.checkDepths (← deeper depth span) items
  | _ => .ok ()

/-- Checks the nesting of patterns. -/
def Syntax.checkDepths (depth : Nat) : List Syntax → Except Flaw Unit
  | [] => .ok ()
  | first :: rest => do
    first.checkDepth depth
    Syntax.checkDepths depth rest

end

end FileQuery.Pattern
