import CreatureProse.Ordered.Set

/-
  This file defines how often a limited ability can be used and
  how its uses come back.

  Key definitions include:
    * `Recharge`
    * `LimitedUse`
    * `LimitedUse.text`
-/

namespace CreatureProse

/-
  How the uses of an ability come back: after rests, each day,
  or at the start of a turn when a six-sided die shows one of
  the given faces.
-/
inductive Recharge where
| rest (short long : Bool)
| day
| turnStart (faces : OrderedSet UInt32)
deriving DecidableEq, Inhabited

/- A number of uses and how they come back, if they do. -/
structure LimitedUse where
  amount : UInt32
  recharge : Option Recharge
deriving DecidableEq, Inhabited

namespace LimitedUse

------------------------------------------------------------
-- Common Limits
------------------------------------------------------------

/- A number of uses each day. -/
def perDay (amount : UInt32) : LimitedUse where
  amount := amount
  recharge := some .day

/- One use until a rest of the given kinds. -/
def perRest
    (short long : Bool) : LimitedUse where
  amount := 1
  recharge := some (.rest short long)

/- One use until a die shows one of the given faces. -/
def rechargeOn (faces : OrderedSet UInt32) : LimitedUse where
  amount := 1
  recharge := some (.turnStart faces)

/- Whether the uses come back on a roll or after a rest. -/
def isRecharging (l : LimitedUse) : Bool :=
  match l.recharge with
  | some (.turnStart _) => true
  | some (.rest _ _) => true
  | _ => false

------------------------------------------------------------
-- Text
------------------------------------------------------------

/- A number of times. -/
def timesText (amount : UInt32) : String :=
  if amount = 1 then
    "1 time"
  else
    toString amount.toNat ++ " times"

/- The rests after which uses come back, if any. -/
def restText? : Bool → Bool → Option String
| true, true => some "Short or Long Rest"
| true, false => some "Short Rest"
| false, true => some "Long Rest"
| false, false => none

/- The least and the greatest face, once if they are equal. -/
def facesText (faces : OrderedSet UInt32) : String :=
  match faces.least?, faces.greatest? with
  | some low, some high =>
    if low = high then
      toString low.toNat
    else
      toString low.toNat ++ "-" ++ toString high.toNat
  | _, _ => ""

/- The text of a limit, such as 3/Day or Recharge 5-6. -/
def text (l : LimitedUse) : String :=
  let times := timesText l.amount
  match l.recharge with
  | none => times
  | some (.rest short long) =>
    match restText? short long with
    | none => times
    | some rest =>
      if l.amount = 1 then
        "Recharges after a " ++ rest
      else
        times ++ " per " ++ rest
  | some .day => toString l.amount.toNat ++ "/Day"
  | some (.turnStart faces) =>
    let recharge := "Recharge " ++ facesText faces
    if l.amount = 1 then
      recharge
    else
      times ++ ", " ++ recharge

end LimitedUse

end CreatureProse
