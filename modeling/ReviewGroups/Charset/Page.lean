/-
Module: ReviewGroups.Charset.Page
Purpose: Character sets in which every byte is a character of its own.
Trusted boundary: none
Main exports: Page, Page.points, Page.read, Page.charset
-/
import ReviewGroups.Charset.Basic
import ReviewGroups.Text.Chart

namespace ReviewGroups.Charset

/-- A set of single bytes: its labels, and the code points of the bytes from zero on.  A byte beyond
the last one, or with U+FFFD, writes no character. -/
structure Page where
  names : List String
  aliases : List String := []
  rows : List String
deriving Repr, Inhabited, DecidableEq

namespace Page

/-- The code points of the bytes, in order. -/
def points (page : Page) : Array Nat :=
  (Text.Chart.points page.rows).toArray

/-- The character at a place of a page. -/
def character? (points : Array Nat) (byte : UInt8) : Option Char :=
  (points[byte.toNat]?).bind fun n => if n = 0xFFFD then none else some (Char.ofNat n)

/-- Read bytes one by one. -/
def read (page : Page) (bytes : List UInt8) : Units :=
  bytes.map (character? page.points)

/-- The character set of a page. -/
def charset (page : Page) : Charset where
  names := page.names
  aliases := page.aliases
  read := page.read

end Page

end ReviewGroups.Charset
