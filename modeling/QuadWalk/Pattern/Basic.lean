import QuadWalk.Pattern.Expr
import QuadWalk.Text.Property

/-!
# Patterns

A `Pattern` is what a written pattern means: texts, sets of characters, places in a text, and their
sequence, choice and repetition. All flags are settled.
-/

namespace QuadWalk

/-- Conditions on a place in the text, given by the characters on its two sides. -/
inductive Look where
  | start
  | finish
  /-- After a line feed or at the start. -/
  | lineStart
  /-- Before a line feed or at the end. -/
  | lineEnd
  /-- At the start or after a line end, a carriage return and a line feed being one. -/
  | lineStartCrlf
  /-- At the end or before a line end, a carriage return and a line feed being one. -/
  | lineEndCrlf
  /-- A condition on words, with the characters that make up words. -/
  | word (kind : Assertion) (characters : CodeSet)
  deriving DecidableEq

/-- A pattern. -/
inductive Pattern where
  /-- The empty text. -/
  | empty
  /-- A text itself. -/
  | literal (text : List Char)
  /-- One character of a set. -/
  | chars (s : CodeSet)
  /-- The empty text at certain places. -/
  | look (l : Look)
  /-- A pattern again and again, with a least and perhaps a greatest number of times, and whether it
  prefers to be short. -/
  | repeat (least : Nat) (most : Option Nat) (short : Bool) (p : Pattern)
  /-- A pattern that a group captures. -/
  | capture (p : Pattern)
  /-- Patterns one after another. -/
  | seq (ps : List Pattern)
  /-- One of several patterns. -/
  | alt (ps : List Pattern)

namespace LetterClass

/-- The characters of a class, for patterns that know all characters. -/
def codes : LetterClass → CodeSet
  | digit => Category.set "Nd"
  | space => Property.whiteSpace
  | word =>
    CodeSet.unions [Property.alphabetic, Category.sets ["M", "Nd", "Pc"], Property.joinControl]

/-- The ASCII characters of a class. -/
def asciiCodes : LetterClass → CodeSet
  | digit => CodeSet.range 0x30 0x39
  | space => CodeSet.ofRanges [(0x09, 0x0D), (0x20, 0x20)]
  | word => CodeSet.ofRanges [(0x30, 0x39), (0x41, 0x5A), (0x5F, 0x5F), (0x61, 0x7A)]

end LetterClass

/-- The characters of an ASCII class, by its name. -/
def asciiClassCodes (name : String) : CodeSet :=
  let letters := [(0x41, 0x5A), (0x61, 0x7A)]
  let ranges : List (Nat × Nat) := match name with
    | "alnum" => (0x30, 0x39) :: letters
    | "alpha" => letters
    | "ascii" => [(0x00, 0x7F)]
    | "blank" => [(0x09, 0x09), (0x20, 0x20)]
    | "cntrl" => [(0x00, 0x1F), (0x7F, 0x7F)]
    | "digit" => [(0x30, 0x39)]
    | "graph" => [(0x21, 0x7E)]
    | "lower" => [(0x61, 0x7A)]
    | "print" => [(0x20, 0x7E)]
    | "punct" => [(0x21, 0x2F), (0x3A, 0x40), (0x5B, 0x60), (0x7B, 0x7E)]
    | "space" => [(0x09, 0x0D), (0x20, 0x20)]
    | "upper" => [(0x41, 0x5A)]
    | "word" => (0x30, 0x39) :: (0x5F, 0x5F) :: letters
    | _ => [(0x30, 0x39), (0x41, 0x46), (0x61, 0x66)]
  CodeSet.ofRanges ranges

end QuadWalk
