import WarehouseMigration.Text.Base64
import WarehouseMigration.Text.Utf8

/-!
# Texts as bytes, and bytes as letters

Reading what was written gives it back, both for the bytes of a text (`fromUtf8_utf8`) and for bytes in Base64
(`decode_encode`).  Each is an induction over what is written, one character or one group of three bytes at a time: a
byte that continues a character adds six bits to its value (`fromUtf8From_continue`), and so does a letter of Base64
(`decodeFrom_symbol`).
-/

namespace WarehouseMigration.Text

/-! ### UTF-8 -/

/-- A character has no value among the surrogates. -/
theorem toNat_char (c : Char) : c.toNat < 0xD800 ∨ 0xE000 ≤ c.toNat ∧ c.toNat < 0x110000 := by
  have hvalid := c.valid
  simp only [UInt32.isValidChar, Nat.isValidChar] at hvalid
  have htoNat : c.toNat = c.val.toNat := rfl
  omega

theorem charOf?_toNat {least : Nat} (c : Char) (h : least ≤ c.toNat) : charOf? least c.toNat = some c := by
  have hchar := toNat_char c
  have hrange : (least ≤ c.toNat && c.toNat < 0x110000 && !(0xD800 ≤ c.toNat && c.toNat < 0xE000)) = true := by
    simp only [Bool.and_eq_true, Bool.not_eq_true', Bool.and_eq_false_iff, decide_eq_true_eq, decide_eq_false_iff_not]
    omega
  rw [charOf?, if_pos hrange, Char.ofNat_toNat]

private theorem continues_add {m : Nat} (h : m < 64) : continues (0x80 + m) = true := by
  simp only [continues, Bool.and_eq_true, decide_eq_true_eq]
  omega

/-- A byte that continues a character adds six bits to its value. -/
theorem fromUtf8From_continue {m : Nat} (h : m < 64) (wanted least n : Nat) (rest : List Nat) :
    fromUtf8From (wanted + 2) least n ((0x80 + m) :: rest) = fromUtf8From (wanted + 1) least (n * 64 + m) rest := by
  have hm : 0x80 + m - 0x80 = m := by omega
  simp only [fromUtf8From, continues_add h, if_true, hm, Nat.add_eq_zero_iff, Nat.one_ne_zero, and_false, if_false]

private theorem fromUtf8From_last {m : Nat} (h : m < 64) {least n : Nat} (c : Char) (hc : n * 64 + m = c.toNat)
    (hleast : least ≤ c.toNat) (rest : List Nat) :
    fromUtf8From 1 least n ((0x80 + m) :: rest) = (c :: ·) <$> fromUtf8From 0 0 0 rest := by
  have hm : 0x80 + m - 0x80 = m := by omega
  simp only [fromUtf8From, continues_add h, if_true, hm, hc, charOf?_toNat c hleast]
  cases fromUtf8From 0 0 0 rest <;> rfl

private theorem fromUtf8From_utf8Char (c : Char) (rest : List Nat) :
    fromUtf8From 0 0 0 (utf8Char c ++ rest) = (c :: ·) <$> fromUtf8From 0 0 0 rest := by
  have hchar := toNat_char c
  rw [utf8Char]
  by_cases h1 : c.toNat < 0x80
  · rw [if_pos h1, List.singleton_append, fromUtf8From, if_pos h1, Char.ofNat_toNat]
  by_cases h2 : c.toNat < 0x800
  · rw [if_neg h1, if_pos h2, List.cons_append, List.singleton_append, fromUtf8From, if_neg (by omega),
      if_pos (by simp; omega), fromUtf8From_last (by omega) c (by omega) (by omega)]
  by_cases h3 : c.toNat < 0x10000
  · rw [if_neg h1, if_neg h2, if_pos h3]
    simp only [List.cons_append, List.nil_append]
    rw [fromUtf8From, if_neg (by omega), if_neg (by simp), if_pos (by simp; omega),
      fromUtf8From_continue (by omega), fromUtf8From_last (by omega) c (by omega) (by omega)]
  · rw [if_neg h1, if_neg h2, if_neg h3]
    simp only [List.cons_append, List.nil_append]
    rw [fromUtf8From, if_neg (by omega), if_neg (by simp; omega), if_neg (by simp), if_pos (by simp; omega),
      fromUtf8From_continue (by omega), fromUtf8From_continue (by omega),
      fromUtf8From_last (by omega) c (by omega) (by omega)]

/-- The bytes of a text are read as this text. -/
theorem fromUtf8_utf8 (s : String) : fromUtf8 (utf8 s) = some s.toList := by
  rw [fromUtf8, utf8]
  induction s.toList with
  | nil => rfl
  | cons c cs ih => rw [List.flatMap_cons, fromUtf8From_utf8Char, ih]; rfl

private theorem lt_of_mem_utf8Char {c : Char} {b : Nat} (h : b ∈ utf8Char c) : b < 256 := by
  have hchar := toNat_char c
  rw [utf8Char] at h
  split at h
  · simp only [List.mem_singleton] at h
    omega
  split at h
  · simp only [List.mem_cons, List.not_mem_nil, or_false] at h
    omega
  split at h
  · simp only [List.mem_cons, List.not_mem_nil, or_false] at h
    omega
  · simp only [List.mem_cons, List.not_mem_nil, or_false] at h
    omega

theorem lt_of_mem_utf8 {s : String} {b : Nat} (h : b ∈ utf8 s) : b < 256 := by
  obtain ⟨c, -, hb⟩ := List.mem_flatMap.1 h
  exact lt_of_mem_utf8Char hb

/-! ### Base64 -/

namespace Base64

private theorem number?_symbol : ∀ n < 64, number? (symbol n) = some n := by decide

private theorem symbol_ne_pad : ∀ n < 64, symbol n ≠ '=' := by decide

private theorem toNat_symbol_lt : ∀ n < 64, (symbol n).toNat < 128 := by decide

/-- A letter adds six bits to those that are left, and a byte is complete after each letter but the first. -/
theorem decodeFrom_symbol {n : Nat} (h : n < 64) (place left pads : Nat) (rest : List Char) :
    decodeFrom place left pads (symbol n :: rest) =
      match place with
      | 0 => decodeFrom 1 n 0 rest
      | 1 => do return (left * 4 + n / 16) :: (← decodeFrom 2 (n % 16) 0 rest)
      | 2 => do return (left * 16 + n / 4) :: (← decodeFrom 3 (n % 4) 0 rest)
      | _ => do return (left * 64 + n) :: (← decodeFrom 0 0 0 rest) := by
  rcases place with - | - | - | place <;>
    simp only [decodeFrom, if_neg (symbol_ne_pad n h), number?_symbol n h]

/-- Bytes are decoded as they were encoded. -/
theorem decode_encode {bytes : List Nat} (h : ∀ b ∈ bytes, b < 256) : decode (encode bytes) = .ok bytes := by
  rw [decode]
  fun_induction encode bytes with
  | case1 => rfl
  | case2 a =>
    have ha : a < 256 := h a (by simp)
    have hbyte : a / 4 * 4 + a % 4 * 16 / 16 = a := by omega
    simp only [decodeFrom_symbol (show a / 4 < 64 by omega), decodeFrom_symbol (show a % 4 * 16 < 64 by omega), hbyte]
    rfl
  | case3 a b =>
    have ha : a < 256 := h a (by simp)
    have hb : b < 256 := h b (by simp)
    have hfirst : a / 4 * 4 + (a % 4 * 16 + b / 16) / 16 = a := by omega
    have hsecond : (a % 4 * 16 + b / 16) % 16 * 16 + b % 16 * 4 / 4 = b := by omega
    simp only [decodeFrom_symbol (show a / 4 < 64 by omega), decodeFrom_symbol (show a % 4 * 16 + b / 16 < 64 by omega),
      decodeFrom_symbol (show b % 16 * 4 < 64 by omega), hfirst, hsecond]
    rfl
  | case4 a b c rest ih =>
    have ha : a < 256 := h a (by simp)
    have hb : b < 256 := h b (by simp)
    have hc : c < 256 := h c (by simp)
    have hfirst : a / 4 * 4 + (a % 4 * 16 + b / 16) / 16 = a := by omega
    have hsecond : (a % 4 * 16 + b / 16) % 16 * 16 + (b % 16 * 4 + c / 64) / 4 = b := by omega
    have hthird : (b % 16 * 4 + c / 64) % 4 * 64 + c % 64 = c := by omega
    simp only [decodeFrom_symbol (show a / 4 < 64 by omega), decodeFrom_symbol (show a % 4 * 16 + b / 16 < 64 by omega),
      decodeFrom_symbol (show b % 16 * 4 + c / 64 < 64 by omega), decodeFrom_symbol (show c % 64 < 64 by omega), hfirst,
      hsecond, hthird, ih fun x hx => h x (by simp [hx])]
    rfl

/-- An encoded text is ASCII. -/
theorem toNat_lt_of_mem_encode {bytes : List Nat} (h : ∀ b ∈ bytes, b < 256) {letter : Char}
    (hletter : letter ∈ encode bytes) : letter.toNat < 128 := by
  have hsymbol : ∀ n < 64, letter = symbol n → letter.toNat < 128 := by
    rintro n hn rfl
    exact toNat_symbol_lt n hn
  have hpad : letter = '=' → letter.toNat < 128 := by
    rintro rfl
    decide
  fun_induction encode bytes with
  | case1 => simp at hletter
  | case2 a =>
    have ha : a < 256 := h a (by simp)
    simp only [List.mem_cons, List.not_mem_nil, or_false] at hletter
    rcases hletter with heq | heq | heq | heq
    · exact hsymbol _ (by omega) heq
    · exact hsymbol _ (by omega) heq
    · exact hpad heq
    · exact hpad heq
  | case3 a b =>
    have ha : a < 256 := h a (by simp)
    have hb : b < 256 := h b (by simp)
    simp only [List.mem_cons, List.not_mem_nil, or_false] at hletter
    rcases hletter with heq | heq | heq | heq
    · exact hsymbol _ (by omega) heq
    · exact hsymbol _ (by omega) heq
    · exact hsymbol _ (by omega) heq
    · exact hpad heq
  | case4 a b c rest ih =>
    have ha : a < 256 := h a (by simp)
    have hb : b < 256 := h b (by simp)
    have hc : c < 256 := h c (by simp)
    simp only [List.mem_cons] at hletter
    rcases hletter with heq | heq | heq | heq | hrest
    · exact hsymbol _ (by omega) heq
    · exact hsymbol _ (by omega) heq
    · exact hsymbol _ (by omega) heq
    · exact hsymbol _ (by omega) heq
    · exact ih (fun x hx => h x (by simp [hx])) hrest

end Base64

end WarehouseMigration.Text
