set_option autoImplicit false

/-!
# Text in bytes

Reading UTF-8. Bytes that are no character stand for the replacement character, one for each longest
run that starts a character without completing it.
-/

namespace Mooring.Text.Utf8

/-- The bytes of a string. -/
def encode (s : String) : List UInt8 :=
  s.toUTF8.toList

/-- The number of bytes after a first byte, the bits it gives, and the bounds of the second byte. -/
def lead? (b : UInt8) : Option (Nat × Nat × Nat × Nat) :=
  let n := b.toNat
  if 0xC2 ≤ n ∧ n ≤ 0xDF then some (1, n % 0x20, 0x80, 0xBF)
  else if n = 0xE0 then some (2, n % 0x10, 0xA0, 0xBF)
  else if n = 0xED then some (2, n % 0x10, 0x80, 0x9F)
  else if 0xE1 ≤ n ∧ n ≤ 0xEF then some (2, n % 0x10, 0x80, 0xBF)
  else if n = 0xF0 then some (3, n % 0x08, 0x90, 0xBF)
  else if 0xF1 ≤ n ∧ n ≤ 0xF3 then some (3, n % 0x08, 0x80, 0xBF)
  else if n = 0xF4 then some (3, n % 0x08, 0x80, 0x8F)
  else none

/-- Read `count` bytes more of a character, the first of them between `low` and `high`. The result
is the character, if it is complete, and the bytes that were not used. -/
def follow (bits low high : Nat) : Nat → List UInt8 → Option Char × List UInt8
  | 0, bs => (some (Char.ofNat bits), bs)
  | _ + 1, [] => (none, [])
  | count + 1, b :: bs =>
    if low ≤ b.toNat ∧ b.toNat ≤ high then follow (bits * 64 + b.toNat % 64) 0x80 0xBF count bs
    else (none, b :: bs)

theorem follow_length (bits low high count : Nat) (bs : List UInt8) :
    (follow bits low high count bs).2.length ≤ bs.length := by
  fun_induction follow bits low high count bs with
  | case1 => exact Nat.le_refl _
  | case2 => exact Nat.le_refl _
  | case3 _ _ _ _ _ _ _ ih => exact Nat.le_succ_of_le ih
  | case4 => exact Nat.le_refl _

/-- The characters of bytes, with nothing in the place of bytes that are no character. -/
def characters (bs : List UInt8) : List (Option Char) :=
  match bs with
  | [] => []
  | b :: rest =>
    if b.toNat < 0x80 then some (Char.ofNat b.toNat) :: characters rest
    else
      match lead? b with
      | none => none :: characters rest
      | some (count, bits, low, high) =>
        let next := follow bits low high count rest
        next.1 :: characters next.2
termination_by bs.length
decreasing_by
  · simp
  · simp
  · have := follow_length bits low high count rest
    simp only [List.length_cons]
    omega

/-- The text of bytes that are all characters. -/
def decode? (bs : List UInt8) : Option String :=
  (characters bs).mapM id |>.map String.ofList

/-- The text of bytes, with the replacement character where there is none. -/
def decode (bs : List UInt8) : String :=
  String.ofList ((characters bs).map fun c => c.getD '\uFFFD')

end Mooring.Text.Utf8
