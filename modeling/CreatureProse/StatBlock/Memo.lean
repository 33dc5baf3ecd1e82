import CreatureProse.Storage.Restore

/-
  This file defines inputs that keep what was read in them. The
  result carries the stamp of its reader, and the input is read
  again only by a reader with another stamp.

  Key definitions include:
    * `Stamp`
    * `Reader`
    * `Stamped`
    * `Memo`
    * `Memo.isStale`
    * `Memo.refreshed`
    * `Memo.refreshedAll`
-/

namespace CreatureProse

------------------------------------------------------------
-- Readers
------------------------------------------------------------

/-
  What a reader is known by: its name, its version, and the
  version of the results that it gives.
-/
structure Stamp where
  reader : String
  version : String
  model : String
deriving DecidableEq, Repr, Inhabited

/- Reads inputs of one kind, as far as it understands them. -/
structure Reader (ι ρ : Type) where
  stamp : Stamp
  read : ι → Option ρ

/- A result with the stamp of its reader. -/
structure Stamped (ρ : Type) where
  value : Option ρ
  stamp : Stamp
deriving DecidableEq

/- Whether a result does not carry the stamp of a reader. -/
def Stamped.isStale
    {ι ρ : Type}
    (result : Stamped ρ)
    (reader : Reader ι ρ) : Bool :=
  result.stamp != reader.stamp

------------------------------------------------------------
-- Inputs with Results
------------------------------------------------------------

/- An input and the result of its last reading. -/
structure Memo (ι ρ : Type) where
  input : ι
  result : Option (Stamped ρ)
deriving DecidableEq

namespace Memo

variable {ι ρ : Type}

/- An input that has not been read. -/
def unread (input : ι) : Memo ι ρ where
  input := input
  result := none

/- What was read, if anything was understood. -/
def value? (m : Memo ι ρ) : Option ρ :=
  m.result.bind Stamped.value

/- Forget the result. -/
def invalidate (m : Memo ι ρ) : Memo ι ρ :=
  unread m.input

/- Exchange the input. The result of an equal input is kept. -/
def setInput
    [DecidableEq ι]
    (m : Memo ι ρ)
    (input : ι) : Memo ι ρ :=
  if m.input = input then m else unread input

/- Whether a reader would read the input again. -/
def isStale
    (m : Memo ι ρ)
    (reader : Reader ι ρ) : Bool :=
  match m.result with
  | none => true
  | some result => result.isStale reader

/-
  Read the input, unless the reader's result is there, and tell
  whether it was read.
-/
def refreshed
    (m : Memo ι ρ)
    (reader : Reader ι ρ) : Memo ι ρ × Bool :=
  if m.isStale reader then
    ({ m with
      result := some
        { value := reader.read m.input, stamp := reader.stamp } },
      true)
  else
    (m, false)

/- Read the input, unless the reader's result is there. -/
def refresh
    (m : Memo ι ρ)
    (reader : Reader ι ρ) : Memo ι ρ :=
  (m.refreshed reader).1

/- Bring all inputs up to date, and tell how many were read. -/
def refreshedAll
    (ms : List (Memo ι ρ))
    (reader : Reader ι ρ) : List (Memo ι ρ) × Nat :=
  let visited := ms.map fun m => m.refreshed reader
  (visited.map Prod.fst, visited.countP Prod.snd)

/- Bring all inputs up to date. -/
def refreshAll
    (ms : List (Memo ι ρ))
    (reader : Reader ι ρ) : List (Memo ι ρ) :=
  (refreshedAll ms reader).1

/- The number of inputs that a reader would read again. -/
def countStale
    (ms : List (Memo ι ρ))
    (reader : Reader ι ρ) : Nat :=
  ms.countP fun m => m.isStale reader

end Memo

------------------------------------------------------------
-- Storage
------------------------------------------------------------

instance {ρ : Type} [Outlined ρ] : Outlined (Stamped ρ) where
  outline r := .record "ParserResult"
    [("value", outline r.value),
      ("parserName", outline r.stamp.reader),
      ("version", outline r.stamp.version),
      ("modelVersion", outline r.stamp.model)]

/-
  The name of the reader and the version of the results may be
  left out, and a list may leave out the last of them.
-/
instance {ρ : Type} [Restorable ρ] : Restorable (Stamped ρ) where
  restore? p :=
    match fields?
      ["value", "parserName", "version", "modelVersion"] 3 p with
    | some [value, reader, version, model] => do
      let value ← optional? value
      let reader ← orEmpty? reader
      let version ← required? version
      let model ← orEmpty? model
      return { value, stamp := { reader, version, model } }
    | _ => none

instance
    {ι ρ : Type}
    [Outlined ι]
    [Outlined ρ] :
    Outlined (Memo ι ρ) where
  outline m := .record "Parseable"
    [("input", outline m.input), ("result", outline m.result)]

instance
    {ι ρ : Type}
    [Restorable ι]
    [Restorable ρ] :
    Restorable (Memo ι ρ) where
  restore? p :=
    match allFields? ["input", "result"] p with
    | some [input, result] => do
      let input ← required? input
      let result ← optional? result
      return { input, result }
    | _ => none

end CreatureProse
