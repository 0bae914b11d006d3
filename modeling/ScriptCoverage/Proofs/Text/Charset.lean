import ScriptCoverage.Text.Charset

/-!
# UTF-8 gives every text back

A text that is encoded can be decoded, and is the same text then (`decodeUtf8_encodeUtf8`). A character is encoded in
one to four bytes. The scan takes the first of them for the beginning of just as many bytes, and every further byte
adds six bits to what the character has, so the cases are those of `encodeChar`.
-/

namespace ScriptCoverage

namespace Utf8

variable {position : Nat} {p : Pending} {b : UInt8} {rest : List UInt8}

theorem toNat_byte {n : Nat} (h : n < 256) : (UInt8.ofNat n).toNat = n := by
  rw [UInt8.toNat_ofNat', Nat.mod_eq_of_lt h]

/-- A byte below `0x80` is a character of its own. -/
theorem scan_ascii (h : b.toNat < 0x80) :
    scan position none (b :: rest) = (Char.ofNat b.toNat :: ·) <$> scan (position + 1) none rest := by
  simp only [scan, h, if_true]

theorem scan_lead (h : 0x80 ≤ b.toNat) (hbegin : begin? b position = some p) :
    scan position none (b :: rest) = scan (position + 1) (some p) rest := by
  simp only [scan, if_neg (Nat.not_lt.2 h), hbegin]

/-- The last byte that is owed completes a character. -/
theorem scan_last (h : p.low ≤ b.toNat ∧ b.toNat ≤ p.high) (howed : p.owed = 1) :
    scan position (some p) (b :: rest) =
      (Char.ofNat (p.bits * 64 + b.toNat % 64) :: ·) <$> scan (position + 1) none rest := by
  simp only [scan, h, and_self, if_true, howed]

theorem scan_further {more : Nat} (h : p.low ≤ b.toNat ∧ b.toNat ≤ p.high) (howed : p.owed = more + 2) :
    scan position (some p) (b :: rest) = scan (position + 1)
      (some { lead := p.lead, start := p.start, bits := p.bits * 64 + b.toNat % 64, owed := more + 1 }) rest := by
  have hne : more + 2 ≠ 1 := by omega
  simp only [scan, h, and_self, if_true, howed, if_neg hne, Nat.add_one_sub_one]

theorem begin?_two (h : 0xc2 ≤ b.toNat) (h' : b.toNat < 0xe0) :
    begin? b position = some { lead := b, start := position, bits := b.toNat - 0xc0, owed := 1 } := by
  simp only [begin?]
  rw [if_neg (by omega), if_pos h']

theorem begin?_three (h : 0xe0 ≤ b.toNat) (h' : b.toNat < 0xf0) :
    begin? b position = some { lead := b, start := position, bits := b.toNat - 0xe0, owed := 2
                               low := if b.toNat = 0xe0 then 0xa0 else 0x80
                               high := if b.toNat = 0xed then 0x9f else 0xbf } := by
  simp only [begin?]
  rw [if_neg (by omega), if_neg (by omega), if_pos h']

theorem begin?_four (h : 0xf0 ≤ b.toNat) (h' : b.toNat < 0xf5) :
    begin? b position = some { lead := b, start := position, bits := b.toNat - 0xf0, owed := 3
                               low := if b.toNat = 0xf0 then 0x90 else 0x80
                               high := if b.toNat = 0xf4 then 0x8f else 0xbf } := by
  simp only [begin?]
  rw [if_neg (by omega), if_neg (by omega), if_neg (by omega), if_pos h']

/-- No character is a surrogate half or beyond the last code point. -/
theorem toNat_char (c : Char) : c.toNat < 0xd800 ∨ 0xdfff < c.toNat ∧ c.toNat < 0x110000 := c.valid

/-- **One character.** Scanning the bytes of a character gives the character, and goes on behind them. -/
theorem scan_encodeChar (c : Char) (position : Nat) (rest : List UInt8) :
    ∃ next, scan position none (encodeChar c ++ rest) = (c :: ·) <$> scan next none rest := by
  have hvalid := toNat_char c
  have hchar := Char.ofNat_toNat c
  generalize hn : c.toNat = n at hvalid hchar
  simp only [encodeChar, hn, Nat.shiftRight_eq_div_pow]
  by_cases h1 : n < 0x80
  · have hb := toNat_byte (show n < 256 by omega)
    rw [if_pos h1, List.singleton_append, scan_ascii (by omega), hb, hchar]
    exact ⟨_, rfl⟩
  by_cases h2 : n < 0x800
  · have hlead := toNat_byte (show 0xc0 + n / 2 ^ 6 < 256 by omega)
    have hlast := toNat_byte (show 0x80 + n / 2 ^ 0 % 64 < 256 by omega)
    rw [if_neg h1, if_pos h2, List.cons_append, scan_lead (by omega) (begin?_two (by omega) (by omega)),
      List.singleton_append, scan_last (by dsimp only; omega) rfl]
    dsimp only
    rw [hlead, hlast, show (0xc0 + n / 2 ^ 6 - 0xc0) * 64 + (0x80 + n / 2 ^ 0 % 64) % 64 = n by omega, hchar]
    exact ⟨_, rfl⟩
  by_cases h3 : n < 0x10000
  · have hlead := toNat_byte (show 0xe0 + n / 2 ^ 12 < 256 by omega)
    have hsecond := toNat_byte (show 0x80 + n / 2 ^ 6 % 64 < 256 by omega)
    have hlast := toNat_byte (show 0x80 + n / 2 ^ 0 % 64 < 256 by omega)
    rw [if_neg h1, if_neg h2, if_pos h3, List.cons_append,
      scan_lead (by omega) (begin?_three (by omega) (by omega)), List.cons_append,
      scan_further (by dsimp only; split <;> split <;> omega) rfl, List.singleton_append,
      scan_last (by dsimp only; omega) rfl]
    dsimp only
    rw [hlead, hsecond, hlast, show ((0xe0 + n / 2 ^ 12 - 0xe0) * 64 + (0x80 + n / 2 ^ 6 % 64) % 64) * 64 +
      (0x80 + n / 2 ^ 0 % 64) % 64 = n by omega, hchar]
    exact ⟨_, rfl⟩
  · have hlead := toNat_byte (show 0xf0 + n / 2 ^ 18 < 256 by omega)
    have hsecond := toNat_byte (show 0x80 + n / 2 ^ 12 % 64 < 256 by omega)
    have hthird := toNat_byte (show 0x80 + n / 2 ^ 6 % 64 < 256 by omega)
    have hlast := toNat_byte (show 0x80 + n / 2 ^ 0 % 64 < 256 by omega)
    rw [if_neg h1, if_neg h2, if_neg h3, List.cons_append,
      scan_lead (by omega) (begin?_four (by omega) (by omega)), List.cons_append,
      scan_further (by dsimp only; split <;> split <;> omega) rfl, List.cons_append,
      scan_further (by dsimp only; omega) rfl, List.singleton_append, scan_last (by dsimp only; omega) rfl]
    dsimp only
    rw [hlead, hsecond, hthird, hlast, show (((0xf0 + n / 2 ^ 18 - 0xf0) * 64 + (0x80 + n / 2 ^ 12 % 64) % 64) * 64 +
      (0x80 + n / 2 ^ 6 % 64) % 64) * 64 + (0x80 + n / 2 ^ 0 % 64) % 64 = n by omega, hchar]
    exact ⟨_, rfl⟩

theorem scan_encodeUtf8 (text : Text) : ∀ position, scan position none (encodeUtf8 text) = .ok text := by
  induction text with
  | nil => intro _; rfl
  | cons c rest ih =>
    intro position
    obtain ⟨next, hscan⟩ := scan_encodeChar c position (encodeUtf8 rest)
    rw [encodeUtf8, List.flatMap_cons, ← encodeUtf8, hscan, ih next]
    rfl

end Utf8

/-- **Encoded and decoded.** -/
theorem decodeUtf8_encodeUtf8 (text : Text) : decodeUtf8 (encodeUtf8 text) = .ok text :=
  Utf8.scan_encodeUtf8 text 0

end ScriptCoverage
