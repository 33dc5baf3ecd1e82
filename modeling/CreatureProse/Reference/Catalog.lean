import CreatureProse.Ordered.Map
import CreatureProse.Parser.Character
import CreatureProse.Parser.Scan
import CreatureProse.Reference.Basic
import CreatureProse.Text.Split

/-
  This file defines catalogs of known names and how their names
  are found in a text. A name counts only as a whole phrase, and
  where several names begin, the longest one is taken.

  Key definitions include:
    * `Catalog`
    * `Catalog.register`
    * `Catalog.lookup?`
    * `Catalog.parser`
    * `Catalog.allIn`
-/

namespace CreatureProse

/-
  Names in lower case and what they stand for. No name is
  empty.
-/
structure Catalog where
  names : OrderedMap String ItemKind
  named : ∀ e ∈ names.entries, e.1 ≠ "" := by decide
deriving DecidableEq

namespace Catalog

open CreatureProse.Parser

/- The catalog without names. -/
def empty : Catalog where
  names := .empty

instance : Inhabited Catalog :=
  ⟨empty⟩

/- A name that is added is not empty, and nor are the others. -/
theorem named_insert
    (catalog : Catalog)
    {key : String}
    (kind : ItemKind)
    (hKey : key ≠ "") :
    ∀ e ∈ (catalog.names.insert key kind).entries,
      e.1 ≠ "" := by
  intro e he
  rcases mem_insertEntry he with hNew | hOld
  · rw [hNew]
    exact hKey
  · exact catalog.named e hOld

/-
  Add a name, in either case and without the blank space around
  it. Nothing is added when nothing is left.
-/
def register
    (catalog : Catalog)
    (name : String)
    (kind : ItemKind) : Catalog :=
  let key := Text.lowercase (Text.trim name)
  if hKey : key = "" then
    catalog
  else
    { names := catalog.names.insert key kind
      named := catalog.named_insert kind hKey }

/- What a name stands for, in either case. -/
def lookup?
    (catalog : Catalog)
    (name : String) : Option ItemKind :=
  catalog.names.get? (Text.lowercase name)

/- The number of names. -/
def size (catalog : Catalog) : Nat :=
  catalog.names.entries.length

/- The catalog of a list of names; of a repeated one the last. -/
def ofList (names : List (String × ItemKind)) : Catalog :=
  names.foldl (fun catalog e => catalog.register e.1 e.2) empty

/-
  The names with the longest first. Names of one length stay in
  ascending order.
-/
def longestFirst (catalog : Catalog) : List (String × ItemKind) :=
  catalog.names.entries.mergeSort fun a b =>
    b.1.length ≤ a.1.length

/- One of the names as a whole phrase. -/
def parser (catalog : Catalog) : Parser ItemReference :=
  firstOf
    (catalog.longestFirst.map fun (name, kind) =>
      (fun text => ⟨text, some kind⟩) <$> wholeWord name)

/- The names mentioned in a folded text, from left to right. -/
def allIn
    (catalog : Catalog)
    (prose : Prose) : List (Located ItemReference) :=
  if catalog.names.entries.isEmpty then
    []
  else
    catalog.parser.allIn prose

end Catalog

end CreatureProse
