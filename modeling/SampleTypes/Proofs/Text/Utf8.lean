import SampleTypes.Disk.Read

/-!
# Texts come back from their bytes

The UTF-8 bytes of a text are read as the text, whatever its characters are.  A text file changes
line ends besides, so a text without CR comes back from a text file.

* `codeBytes n`               the bytes of the character with the number `n`;
* `utf8Piece_codeBytes`       the first piece of bytes that begin with those of a character;
* `decode_utf8`, `ofFile_utf8`   the main statements.
-/

namespace SampleTypes.Text

/-- the UTF-8 bytes of the character with a number -/
def codeBytes (n : Nat) : List Nat :=
  if n ≤ 0x7f then [n]
  else if n ≤ 0x7ff then [n / 64 % 32 + 192, n % 64 + 128]
  else if n ≤ 0xffff then [n / 4096 % 16 + 224, n / 64 % 64 + 128, n % 64 + 128]
  else [n / 262144 % 8 + 240, n / 4096 % 64 + 128, n / 64 % 64 + 128, n % 64 + 128]

theorem utf8EncodeChar_eq (c : Char) :
    (String.utf8EncodeChar c).map UInt8.toNat = codeBytes c.toNat := by
  have hbyte : ∀ n, n < 256 → (UInt8.ofNat n).toNat = n := by
    intro n hn
    rw [UInt8.toNat_ofNat']
    exact Nat.mod_eq_of_lt hn
  have hval : c.val.toNat = c.toNat := rfl
  simp only [String.utf8EncodeChar, codeBytes, hval]
  split
  · rw [List.map_singleton, hbyte _ (by omega)]
  split
  · rw [List.map_cons, List.map_singleton, hbyte _ (by omega), hbyte _ (by omega)]
  split
  · rw [List.map_cons, List.map_cons, List.map_singleton, hbyte _ (by omega), hbyte _ (by omega),
      hbyte _ (by omega)]
  · rw [List.map_cons, List.map_cons, List.map_cons, List.map_singleton, hbyte _ (by omega),
      hbyte _ (by omega), hbyte _ (by omega), hbyte _ (by omega)]

theorem utf8_eq (s : String) : utf8 s = s.toList.flatMap fun c => codeBytes c.toNat := by
  unfold utf8
  exact congrArg (s.toList.flatMap ·) (funext utf8EncodeChar_eq)

/-! ## one character -/

theorem utf8Tails_cons {acc used more b : Nat} (h : isTail b = true) (bs : List Nat) :
    utf8Tails acc used (more + 1) (b :: bs) =
      utf8Tails (acc * 64 + (b - 0x80)) (used + 1) more bs := if_pos h

theorem utf8Sequence_cons {b acc more b2 : Nat} (hlow : (secondRange b).1 ≤ b2)
    (hhigh : b2 ≤ (secondRange b).2) (bs : List Nat) :
    utf8Sequence b acc more (b2 :: bs) = utf8Tails (acc * 64 + (b2 - 0x80)) 2 (more - 1) bs := by
  unfold utf8Sequence
  simp [hlow, hhigh]

theorem isTail_of_mod (n : Nat) : isTail (n % 64 + 128) = true := by
  rw [isTail, Bool.and_eq_true, decide_eq_true_eq, decide_eq_true_eq]
  omega

theorem utf8Piece_two {n : Nat} (hlow : 0x7f < n) (hhigh : n ≤ 0x7ff) (bs : List Nat) :
    utf8Piece (n / 64 % 32 + 192) ((n % 64 + 128) :: bs) = .char (Char.ofNat n) 2 := by
  have hrange : secondRange (n / 64 % 32 + 192) = (0x80, 0xbf) := by
    unfold secondRange
    rw [if_neg (by omega), if_neg (by omega), if_neg (by omega), if_neg (by omega)]
  have hvalue : (n / 64 % 32 + 192 - 0xc0) * 64 + (n % 64 + 128 - 0x80) = n := by omega
  rw [utf8Piece, if_neg (by omega), if_neg (by omega), if_pos (by omega),
    utf8Sequence_cons (by rw [hrange]; omega) (by rw [hrange]; omega), hvalue]
  rfl

theorem utf8Piece_three {n : Nat} (hlow : 0x7ff < n) (hhigh : n ≤ 0xffff)
    (hvalid : n < 0xd800 ∨ 0xdfff < n) (bs : List Nat) :
    utf8Piece (n / 4096 % 16 + 224) ((n / 64 % 64 + 128) :: (n % 64 + 128) :: bs) =
      .char (Char.ofNat n) 3 := by
  -- after the first bytes 0xe0 and 0xed the second byte has a smaller range
  have hrange : (secondRange (n / 4096 % 16 + 224)).1 ≤ n / 64 % 64 + 128 ∧
      n / 64 % 64 + 128 ≤ (secondRange (n / 4096 % 16 + 224)).2 := by
    unfold secondRange
    repeat' split
    all_goals constructor <;> dsimp only <;> omega
  have hvalue : ((n / 4096 % 16 + 224 - 0xe0) * 64 + (n / 64 % 64 + 128 - 0x80)) * 64 +
      (n % 64 + 128 - 0x80) = n := by omega
  rw [utf8Piece, if_neg (by omega), if_neg (by omega), if_neg (by omega), if_pos (by omega),
    utf8Sequence_cons hrange.1 hrange.2, utf8Tails_cons (isTail_of_mod n), hvalue]
  rfl

theorem utf8Piece_four {n : Nat} (hlow : 0xffff < n) (hhigh : n < 0x110000) (bs : List Nat) :
    utf8Piece (n / 262144 % 8 + 240)
      ((n / 4096 % 64 + 128) :: (n / 64 % 64 + 128) :: (n % 64 + 128) :: bs) =
      .char (Char.ofNat n) 4 := by
  have hrange : (secondRange (n / 262144 % 8 + 240)).1 ≤ n / 4096 % 64 + 128 ∧
      n / 4096 % 64 + 128 ≤ (secondRange (n / 262144 % 8 + 240)).2 := by
    unfold secondRange
    repeat' split
    all_goals constructor <;> dsimp only <;> omega
  have hvalue : (((n / 262144 % 8 + 240 - 0xf0) * 64 + (n / 4096 % 64 + 128 - 0x80)) * 64 +
      (n / 64 % 64 + 128 - 0x80)) * 64 + (n % 64 + 128 - 0x80) = n := by omega
  rw [utf8Piece, if_neg (by omega), if_neg (by omega), if_neg (by omega), if_neg (by omega),
    if_pos (by omega), utf8Sequence_cons hrange.1 hrange.2, utf8Tails_cons (isTail_of_mod _),
    utf8Tails_cons (isTail_of_mod n), hvalue]
  rfl

/-- bytes that begin with those of a character give it first -/
theorem utf8Piece_codeBytes (c : Char) (rest : List Nat) :
    ∃ b bs, codeBytes c.toNat = b :: bs ∧ utf8Piece b (bs ++ rest) = .char c (bs.length + 1) := by
  have hvalid : c.toNat < 0xd800 ∨ 0xdfff < c.toNat ∧ c.toNat < 0x110000 := c.valid
  have hc : Char.ofNat c.toNat = c := Char.ofNat_toNat c
  generalize c.toNat = n at hvalid hc
  subst hc
  unfold codeBytes
  split
  · exact ⟨_, _, rfl, if_pos (by omega)⟩
  split
  · exact ⟨_, _, rfl, utf8Piece_two (by omega) (by omega) rest⟩
  split
  · exact ⟨_, _, rfl, utf8Piece_three (by omega) (by omega) (by omega) rest⟩
  · exact ⟨_, _, rfl, utf8Piece_four (by omega) (by omega) rest⟩

/-! ## whole texts -/

theorem piecesFrom_drop (first : Nat → List Nat → Piece) (skipped bs : List Nat) :
    piecesFrom first skipped.length (skipped ++ bs) = piecesFrom first 0 bs := by
  induction skipped with
  | nil => rfl
  | cons b skipped ih => exact ih

/-- the pieces of the bytes of characters are the characters, from which they can be collected -/
theorem collect_codeBytes (bs : List Nat) (start : Nat) (cs : List Char) :
    collect .utf8 bs start (pieces .utf8 (cs.flatMap fun c => codeBytes c.toNat)) = .ok cs := by
  induction cs generalizing start with
  | nil => rfl
  | cons c cs ih =>
    rw [List.flatMap_cons]
    generalize cs.flatMap (fun c => codeBytes c.toNat) = rest at ih ⊢
    obtain ⟨b, tail, hbytes, hpiece⟩ := utf8Piece_codeBytes c rest
    have hfirst : Encoding.utf8.piece b (tail ++ rest) = .char c (tail.length + 1) := hpiece
    have hpieces : pieces .utf8 (b :: (tail ++ rest)) =
        .char c (tail.length + 1) :: pieces .utf8 rest := by
      unfold pieces
      rw [piecesFrom, hfirst]
      exact congrArg _ (piecesFrom_drop _ tail rest)
    rw [hbytes, List.cons_append, hpieces, collect, ih]
    rfl

/-- the bytes of a text are read as the text -/
theorem decode_utf8 (s : String) : decode .utf8 (utf8 s) = .ok s.toList := by
  unfold decode
  rw [utf8_eq]
  exact collect_codeBytes _ 0 s.toList

theorem unifyLineEnds_of_notMem {cs : List Char} (h : '\r' ∉ cs) : unifyLineEnds cs = cs := by
  induction cs with
  | nil => rfl
  | cons c cs ih =>
    have hc : c ≠ '\r' := fun e => h (e ▸ List.mem_cons_self)
    unfold unifyLineEnds
    split
    · next heq => exact absurd heq (by simp)
    · next heq => exact absurd (List.cons.inj heq).1 hc
    · next heq =>
      obtain ⟨rfl, rfl⟩ := List.cons.inj heq
      rw [if_neg hc, ih fun hr => h (List.mem_cons_of_mem c hr)]

/-- a text without CR comes back from a file that holds its bytes -/
theorem ofFile_utf8 {s : String} (h : '\r' ∉ s.toList) : ofFile (utf8 s) = .ok s.toList := by
  unfold ofFile
  rw [decode_utf8]
  exact congrArg Except.ok (unifyLineEnds_of_notMem h)

end SampleTypes.Text
