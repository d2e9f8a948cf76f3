import Mathlib.Data.List.Basic
import Signatures.Proofs.Text.PrefixCode
import Signatures.Text.Quoted

/-!
# Quoted text is unambiguous

Every written character is told by its first two characters or, as a code point, by its digits up to
the closing brace; and none begins with the quote that ends the text. So a quoted text can be read
back whatever characters it holds and whatever follows it.
-/

namespace Signatures.Text

set_option autoImplicit false

section Digits

variable {m n : Nat}

theorem digitChar_injective (hm : m < 16) (hn : n < 16) (h : Nat.digitChar m = Nat.digitChar n) :
    m = n := by
  have hall : ∀ m < 16, ∀ n < 16, Nat.digitChar m = Nat.digitChar n → m = n := by decide
  exact hall m hm n hn h

/-- The last digit, and the digits of the number without it. -/
theorem toDigits_eq_append (n : Nat) :
    Nat.toDigits 16 n =
      (if n < 16 then [] else Nat.toDigits 16 (n / 16)) ++ [Nat.digitChar (n % 16)] := by
  split
  · rename_i hn
    rw [Nat.toDigits_of_lt_base hn, Nat.mod_eq_of_lt hn, List.nil_append]
  · rename_i hn
    exact Nat.toDigits_of_base_le (by decide) (Nat.not_lt.mp hn)

theorem toDigits_injective : Function.Injective (Nat.toDigits 16) := by
  intro m n h
  induction m using Nat.strong_induction_on generalizing n with
  | _ m ih =>
    rw [toDigits_eq_append m, toDigits_eq_append n] at h
    obtain ⟨hfront, hlast⟩ := List.append_inj' h rfl
    have hmod : m % 16 = n % 16 := digitChar_injective (Nat.mod_lt m (by decide))
      (Nat.mod_lt n (by decide)) (List.singleton_inj.mp hlast)
    split at hfront
    · split at hfront
      · omega
      · exact absurd hfront.symm Nat.toDigits_ne_nil
    · split at hfront
      · exact absurd hfront Nat.toDigits_ne_nil
      · have hdiv := ih (m / 16) (by omega) hfront
        omega

theorem not_mem_toDigits {c : Char} (hc : ∀ d, Nat.digitChar d ≠ c) (n : Nat) :
    c ∉ Nat.toDigits 16 n := by
  induction n using Nat.strong_induction_on with
  | _ n ih =>
    rw [toDigits_eq_append, List.mem_append, not_or]
    constructor
    · split
      · exact List.not_mem_nil
      · exact ih (n / 16) (by omega)
    · rw [List.mem_singleton]
      exact (hc (n % 16)).symm

end Digits

namespace Quoted

variable {quote c d : Char}

theorem isPrefixCode_codePoint : IsPrefixCode codePoint := by
  intro c d u v h
  simp only [codePoint, List.append_assoc, List.append_cancel_left_eq, List.singleton_append] at h
  have hbrace : ∀ n, '\x7d' ∉ Nat.toDigits 16 n := not_mem_toDigits fun d =>
    Nat.digitChar_ne '\x7d' (by decide)
  obtain ⟨hdigits, hrest⟩ := eq_of_append_cons_eq (hbrace _) (hbrace _) h
  exact ⟨Char.toNat_inj.mp (toDigits_injective hdigits), hrest⟩

/-- The character that a letter stands for after a backslash. -/
def letterValue : Char → Char
  | '0' => '\x00'
  | 't' => '\t'
  | 'n' => '\n'
  | 'r' => '\r'
  | c => c

/-- The forms of a written character: itself, a letter after a backslash, or its code point. -/
inductive Form (quote : Char) (c : Char) : List Char → Prop
  | plain : c ≠ '\\' → c ≠ quote → Form quote c [c]
  | letter {l : Char} : l ≠ 'u' → letterValue l = c → Form quote c ['\\', l]
  | codePoint : Form quote c (codePoint c)

/-- The quote is none of the characters that have a meaning after a backslash. -/
def IsQuote (quote : Char) : Prop :=
  quote ≠ '\\' ∧ quote ≠ 'u' ∧ letterValue quote = quote

theorem isQuote_double : IsQuote '"' :=
  ⟨by decide, by decide, rfl⟩

theorem isQuote_single : IsQuote '\'' :=
  ⟨by decide, by decide, rfl⟩

theorem form_escape (hquote : IsQuote quote) (c : Char) : Form quote c (escape quote c) := by
  obtain ⟨-, hu, hvalue⟩ := hquote
  unfold escape
  split
  · rename_i l hl
    unfold controlLetter? at hl
    split at hl
    all_goals simp only [Option.some.injEq, reduceCtorEq] at hl
    all_goals
      obtain rfl := hl
      exact .letter (by decide) rfl
  · split
    · rename_i hc
      rcases hc with rfl | rfl
      · exact .letter (by decide) rfl
      · exact .letter hu hvalue
    · rename_i hc
      rw [not_or] at hc
      split
      · exact .codePoint
      · exact .plain hc.1 hc.2

theorem isPrefixCode_escape (hquote : IsQuote quote) : IsPrefixCode (escape quote) := by
  intro c d u v h
  have hc := form_escape hquote c
  have hd := form_escape hquote d
  generalize escape quote c = s at h hc
  generalize escape quote d = t at h hd
  cases hc with
  | plain hc _ =>
    cases hd with
    | plain => simpa using h
    | letter => exact absurd h ((diverge_cons hc _ _).append_ne _ _)
    | codePoint => exact absurd h ((diverge_cons hc _ _).append_ne _ _)
  | @letter l hl hc =>
    cases hd with
    | plain hd _ => exact absurd h.symm ((diverge_cons hd _ _).append_ne _ _)
    | letter _ hd =>
      simp only [List.cons_append, List.nil_append, List.cons.injEq, true_and] at h
      obtain ⟨rfl, rfl⟩ := h
      exact ⟨hc.symm.trans hd, rfl⟩
    | codePoint => simp [codePoint, hl] at h
  | codePoint =>
    cases hd with
    | plain hd _ => exact absurd h.symm ((diverge_cons hd _ _).append_ne _ _)
    | letter hl _ => simp [codePoint, hl.symm] at h
    | codePoint => exact isPrefixCode_codePoint c d u v h

theorem diverge_escape (hquote : IsQuote quote) (c : Char) : Diverge [quote] (escape quote c) := by
  have hc := form_escape hquote c
  generalize escape quote c = s at hc
  cases hc with
  | plain _ hc => exact diverge_cons hc.symm _ _
  | letter => exact diverge_cons hquote.1 _ _
  | codePoint => exact diverge_cons hquote.1 _ _

theorem feed_not_mem_escape (hquote : IsQuote quote) (c : Char) : '\n' ∉ escape quote c := by
  by_cases hc : c = '\n'
  · subst hc
    simp [escape, controlLetter?]
  · have hform := form_escape hquote c
    generalize escape quote c = s at hform
    cases hform with
    | plain => simpa [eq_comm] using hc
    | @letter l _ hl =>
      have hne : l ≠ '\n' := by
        rintro rfl
        exact hc hl.symm
      simpa using hne.symm
    | codePoint =>
      have hdigits := not_mem_toDigits (fun d => Nat.digitChar_ne '\n' (by decide)) c.toNat
      simpa [codePoint] using hdigits

/-- A quoted text stands on one line. -/
theorem feed_not_mem_text (s : List Char) : '\n' ∉ text s := by
  simp [text, feed_not_mem_escape isQuote_double]

theorem isPrefixCode_text : IsPrefixCode text := by
  have hchars :=
    (isPrefixCode_escape isQuote_double).flatMap_append (diverge_escape isQuote_double)
  intro s t u v h
  exact hchars s t u v (List.cons.inj h).2

/-- Text that looks like the end of a quoted text and the beginning of another is escaped. -/
example : String.ofList (text "\",\n\u0301'\\".toList) = "\"\\\",\\n\\u\x7b301\x7d'\\\\\"" := by
  decide +kernel

theorem isPrefixCode_character : IsPrefixCode character := by
  intro c d u v h
  simp only [character, List.cons_append, List.append_assoc, List.cons.injEq, true_and] at h
  obtain ⟨hcd, hrest⟩ := isPrefixCode_escape isQuote_single c d _ _ h
  exact ⟨hcd, (List.cons.inj hrest).2⟩

end Quoted

end Signatures.Text
