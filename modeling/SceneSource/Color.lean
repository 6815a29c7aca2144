-- SUMMARY: Colors and the packed integer in which they travel.
import SceneSource.Value.Integer

/-!
# Colors

A color travels as one 32-bit integer whose bytes are alpha, blue, green and red from the
highest down. Packing takes the lowest eight bits of each channel, unpacking the lowest
32 bits of the integer. A color field accepts a color as it is, a packed integer, and
lists, tuples and mappings of channels that denote integers in 0…255.

The red channel has the lowest bits and is not shifted, so font flags in its place stay
font flags in the packed form, and packed font flags leave font flags there.
-/

namespace SceneSource.Color

/-- The packed form of four channels. -/
def pack (r g b a : BitVec 8) : BitVec 32 := a ++ b ++ g ++ r

/-- The packed form of four integers, of which the lowest bytes count. -/
def packed (r g b a : Int) : Int :=
  (pack (BitVec.ofInt 8 r) (BitVec.ofInt 8 g) (BitVec.ofInt 8 b) (BitVec.ofInt 8 a)).toNat

/-- The channel at a bit of the packed form. -/
def channelAt (n : Int) (bit : Nat) : Int := ((BitVec.ofInt 32 n).extractLsb' bit 8).toNat

/-- The color that an integer packs; `red` is what becomes of the red channel. -/
def unpackedWith (red : Int → Value) (n : Int) : Value :=
  .color (red (channelAt n 0)) (.int (channelAt n 8)) (.int (channelAt n 16))
    (.int (channelAt n 24))

/-- The color that an integer packs. -/
def unpacked (n : Int) : Value := unpackedWith .int n

/-- An integer as what a value is: font flags or a plain integer. -/
def like (v : Value) (n : Int) : Value :=
  match v with
  | .flags _ => .ofFlags n
  | _ => .int n

-- ---------------------------------------------------------------------------
-- Encoding and decoding of values
-- ---------------------------------------------------------------------------

/-- The integer of a channel. -/
def channel (v : Value) : Except Fault Int :=
  match v.int? with
  | some n => .ok n
  | none => .error (.channelType v.fullTypeName)

/-- Packs a color, or any collection of four channels. The alpha channel is looked at
    first and the red one last. -/
def encode (v : Value) : Except Fault Value :=
  match v.elements? with
  | some [r, g, b, a] => do
    let alpha ← channel a
    let blue ← channel b
    let green ← channel g
    let red ← channel r
    return like r (packed red green blue alpha)
  | some xs => .error (if xs.length < 4 then .tooFew xs.length else .tooMany)
  | none => .error (.notUnpackable v.fullTypeName)

/-- Unpacks an integral value. -/
def decode (v : Value) : Except Fault Value :=
  (channel v).map (unpackedWith (like v))

-- ---------------------------------------------------------------------------
-- Color fields
-- ---------------------------------------------------------------------------

/-- The alpha channel of a color that is given without one. -/
def opaqueAlpha : Value := .int 255

/-- The color of given channels; `whole` is what they were given as. -/
def ofChannels (whole : Value) (channels : List Value) : Except Fault Value :=
  match channels.mapM Value.toInteger with
  | .error fault =>
    if fault.category = .value ∨ fault.category = .type then do
      .error (.colorChannels (← whole.show?))
    else .error fault
  | .ok ns =>
    if ns.all fun n => 0 ≤ n && n ≤ 255 then
      match ns with
      | [r, g, b] => .ok (.color (.int r) (.int g) (.int b) opaqueAlpha)
      | [r, g, b, a] => .ok (.color (.int r) (.int g) (.int b) (.int a))
      | _ => .error .colorShape
    else .error .colorRange

/-- The color of a list or tuple of channels. -/
def ofSequence (whole : Value) (channels : List Value) : Except Fault Value :=
  if channels.length = 3 ∨ channels.length = 4 then ofChannels whole channels
  else .error .colorShape

/-- The channel of a mapping that has to be there. -/
def required (entries : List (String × Value)) (name : String) : Except Fault Value :=
  match entries.lookup name with
  | some v => .ok v
  | none => .error (.colorChannelMissing name)

/-- The color that a color field stores for a value. -/
def ofValue (v : Value) : Except Fault Value :=
  match v with
  | .color .. => .ok v
  | .bool _ => .error .colorShape
  | .mapping entries => do
    let r ← required entries "r"
    let g ← required entries "g"
    let b ← required entries "b"
    let channels := [r, g, b, (entries.lookup "a").getD opaqueAlpha]
    ofChannels (.tuple channels) channels
  | .list xs | .tuple xs => ofSequence v xs
  | v => match v.int? with
    | some n => .ok (unpackedWith (like v) n)
    | none => .error .colorShape

end SceneSource.Color
