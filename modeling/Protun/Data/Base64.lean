import Mathlib.Data.List.Basic

/-!
# Base64

The encoder with padding and without line breaks, and the decoder of `android.util.Base64` with its
default alphabet. The decoder reads one character at a time. It skips every character outside the
alphabet, takes `=` only where a group of four may end early, and accepts a text without padding.

* `decode_encode`: decoding undoes encoding.
-/

namespace Protun.Base64

/-- The standard alphabet. -/
def alphabet : List Char :=
  "ABCDEFGHIJKLMNOPQRSTUVWXYZabcdefghijklmnopqrstuvwxyz0123456789+/".toList

/-- The character of six bits. -/
def char (n : Nat) : Char := alphabet.getD n 'A'

/-- What the decoder sees in a character. -/
inductive Symbol where
  | digit (n : Nat)
  | equals
  | skip
  deriving DecidableEq, Repr

/-- The decoding table. -/
def symbol (c : Char) : Symbol :=
  if c = '=' then .equals
  else
    match alphabet.idxOf? c with
    | some n => .digit n
    | none => .skip

theorem symbol_char : ∀ n < 64, symbol (char n) = .digit n := by decide +kernel

theorem symbol_equals : symbol '=' = .equals := rfl

/-- The low eight bits. -/
def byte (n : Nat) : UInt8 := UInt8.ofNat n

theorem byte_of_mod {n : Nat} {b : UInt8} (h : n % 256 = b.toNat) : byte n = b := by
  apply UInt8.toNat_inj.mp
  rw [byte, UInt8.toNat_ofNat']
  exact h

/-! ## Encoding -/

/-- Three bytes become four characters; one or two bytes that are left are padded. -/
def encode : List UInt8 → List Char
  | a :: b :: c :: rest =>
    char (a.toNat / 4) :: char (a.toNat % 4 * 16 + b.toNat / 16) ::
      char (b.toNat % 16 * 4 + c.toNat / 64) :: char (c.toNat % 64) :: encode rest
  | [a, b] =>
    [char (a.toNat / 4), char (a.toNat % 4 * 16 + b.toNat / 16), char (b.toNat % 16 * 4), '=']
  | [a] => [char (a.toNat / 4), char (a.toNat % 4 * 16), '=', '=']
  | [] => []

/-! ## Decoding -/

/-- The decoder: the number of characters of the current group, or 4 when a second `=` is due and 5
after the padding; their bits; and the bytes so far. -/
structure Decoder where
  state : Nat := 0
  value : Nat := 0
  output : List UInt8 := []
  deriving DecidableEq, Repr

namespace Decoder

/-- One character; `none` is a bad one. -/
def step (d : Decoder) : Symbol → Option Decoder
  | .skip => some d
  | .digit n =>
    let value := d.value * 64 + n
    match d.state with
    | 0 => some { d with state := 1, value := n }
    | 1 => some { d with state := 2, value }
    | 2 => some { d with state := 3, value }
    | 3 => some { state := 0, value, output := d.output ++
        [byte (value / 65536), byte (value / 256), byte value] }
    | _ => none
  | .equals =>
    match d.state with
    | 2 => some { d with state := 4, output := d.output ++ [byte (d.value / 16)] }
    | 3 => some { d with state := 5, output := d.output ++
        [byte (d.value / 1024), byte (d.value / 4)] }
    | 4 => some { d with state := 5 }
    | _ => none

/-- The end of the input: an unpadded group is completed. -/
def finish (d : Decoder) : Option (List UInt8) :=
  match d.state with
  | 0 | 5 => some d.output
  | 2 => some (d.output ++ [byte (d.value / 16)])
  | 3 => some (d.output ++ [byte (d.value / 1024), byte (d.value / 4)])
  | _ => none

end Decoder

/-- From the decoder `d` on; `none` is a bad text. -/
def decodeFrom (d : Decoder) : List Char → Option (List UInt8)
  | [] => d.finish
  | c :: cs => (d.step (symbol c)).bind fun d => decodeFrom d cs

/-- `Base64.decode`. -/
def decode (cs : List Char) : Option (List UInt8) := decodeFrom {} cs

/-! ## The round trip -/

section Group

variable {d : Decoder} (hd : d.state = 0)
include hd

/-- A full group. -/
theorem decodeFrom_group {n₀ n₁ n₂ n₃ : Nat} (h₀ : n₀ < 64) (h₁ : n₁ < 64) (h₂ : n₂ < 64)
    (h₃ : n₃ < 64) (cs : List Char) :
    decodeFrom d (char n₀ :: char n₁ :: char n₂ :: char n₃ :: cs) =
      decodeFrom { state := 0, value := ((n₀ * 64 + n₁) * 64 + n₂) * 64 + n₃, output := d.output ++
        [byte ((((n₀ * 64 + n₁) * 64 + n₂) * 64 + n₃) / 65536),
          byte ((((n₀ * 64 + n₁) * 64 + n₂) * 64 + n₃) / 256),
          byte (((n₀ * 64 + n₁) * 64 + n₂) * 64 + n₃)] } cs := by
  simp [decodeFrom, symbol_char, h₀, h₁, h₂, h₃, Decoder.step, hd]

/-- A group of two bytes. -/
theorem decodeFrom_two {n₀ n₁ n₂ : Nat} (h₀ : n₀ < 64) (h₁ : n₁ < 64) (h₂ : n₂ < 64) :
    decodeFrom d [char n₀, char n₁, char n₂, '='] = some (d.output ++
      [byte (((n₀ * 64 + n₁) * 64 + n₂) / 1024), byte (((n₀ * 64 + n₁) * 64 + n₂) / 4)]) := by
  simp [decodeFrom, symbol_char, symbol_equals, h₀, h₁, h₂, Decoder.step, Decoder.finish, hd]

/-- A group of one byte. -/
theorem decodeFrom_one {n₀ n₁ : Nat} (h₀ : n₀ < 64) (h₁ : n₁ < 64) :
    decodeFrom d [char n₀, char n₁, '=', '='] =
      some (d.output ++ [byte ((n₀ * 64 + n₁) / 16)]) := by
  simp [decodeFrom, symbol_char, symbol_equals, h₀, h₁, Decoder.step, Decoder.finish, hd]

end Group

/-- Between two groups the decoder adds what was encoded to what it has. -/
theorem decodeFrom_encode (bytes : List UInt8) {d : Decoder} (hd : d.state = 0) :
    decodeFrom d (encode bytes) = some (d.output ++ bytes) := by
  induction bytes using encode.induct generalizing d with
  | case1 a b c rest ih =>
    have ha := a.toNat_lt
    have hb := b.toNat_lt
    have hc := c.toNat_lt
    rw [encode, decodeFrom_group hd (by omega) (by omega) (by omega) (by omega), ih rfl,
      byte_of_mod (b := a) (by omega), byte_of_mod (b := b) (by omega),
      byte_of_mod (b := c) (by omega), List.append_assoc]
    rfl
  | case2 a b =>
    have ha := a.toNat_lt
    have hb := b.toNat_lt
    rw [encode, decodeFrom_two hd (by omega) (by omega) (by omega),
      byte_of_mod (b := a) (by omega), byte_of_mod (b := b) (by omega)]
  | case3 a =>
    have ha := a.toNat_lt
    rw [encode, decodeFrom_one hd (by omega) (by omega), byte_of_mod (b := a) (by omega)]
  | case4 => simp [encode, decodeFrom, Decoder.finish, hd]

/-- **Decoding undoes encoding.** -/
theorem decode_encode (bytes : List UInt8) : decode (encode bytes) = some bytes :=
  decodeFrom_encode bytes rfl

end Protun.Base64
