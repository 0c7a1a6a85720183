/-
Module: ReviewGroups.Charset
Purpose: All character sets, and the one with a label.
Trusted boundary: none
Main exports: Charset.all, Charset.ofLabel?
-/
import ReviewGroups.Charset.Dos
import ReviewGroups.Charset.Ebcdic
import ReviewGroups.Charset.Iso2022
import ReviewGroups.Charset.Iso8859
import ReviewGroups.Charset.Macintosh
import ReviewGroups.Charset.Regional
import ReviewGroups.Charset.Unicode
import ReviewGroups.Charset.Windows

namespace ReviewGroups.Charset

/-- The sets in which every byte is a character of its own. -/
def pages : List Page :=
  Page.iso8859 ++ Page.windows ++ Page.dos ++ Page.ebcdic ++ Page.macintosh ++ Page.regional

/-- All character sets. -/
def all : List Charset :=
  unicode ++ pages.map Page.charset ++ chinese ++ japanese ++ korean ++ switched ++ refusing

/-- The set with a label. -/
def ofLabel? (label : List Char) : Option Charset :=
  find? all label

end ReviewGroups.Charset
