/-
Text inside quotes.

`escape` writes one character so that it can stand inside quotes: a backslash goes before a
backslash and before each character in `quotes`, tab, line feed, carriage return and NUL have
names of their own, and what is not printable is given by its code in hexadecimal.

* `escape_of_printable`: any other printable character is written as it is;
* `isPrintable_of_mem_escape`: only printable characters are written.
-/
import Reckon.Text.Printable

namespace Reckon.Text

/-- A character by its code: `\u` and the code in hexadecimal, between braces. -/
def escapeCode (c : Char) : List Char := ['\\', 'u', '{'] ++ Nat.toDigits 16 c.toNat ++ ['}']

/-- A character as it is written inside quotes. -/
def escape (quotes : List Char) (c : Char) : List Char :=
  if c = '\x00' then ['\\', '0']
  else if c = '\t' then ['\\', 't']
  else if c = '\r' then ['\\', 'r']
  else if c = '\n' then ['\\', 'n']
  else if c = '\\' ∨ c ∈ quotes then ['\\', c]
  else if isPrintable c then [c]
  else escapeCode c

/-- Both kinds of quotes. -/
def bothQuotes : List Char := ['\'', '"']

/-- A text between double quotes, with its characters escaped. -/
def quoted (s : String) : String :=
  String.ofList ('"' :: s.toList.flatMap (escape ['"']) ++ ['"'])

theorem escape_of_printable {quotes : List Char} {c : Char} (hc : isPrintable c = true)
    (hb : c ≠ '\\') (hq : c ∉ quotes) : escape quotes c = [c] := by
  have hcontrol : ∀ d : Char, isPrintable d = false → c ≠ d := by
    rintro d hd rfl
    exact absurd hc (by simp [hd])
  simp [escape, hcontrol '\x00' (by decide), hcontrol '\t' (by decide), hcontrol '\r' (by decide),
    hcontrol '\n' (by decide), hb, hq, hc]

theorem exists_of_mem_toDigits {b n : Nat} (hb : 1 < b) {c : Char} (h : c ∈ Nat.toDigits b n) :
    ∃ k < b, c = Nat.digitChar k := by
  induction n using Nat.strongRecOn with
  | ind n ih =>
    rw [Nat.toDigits_eq_if hb] at h
    split at h
    · exact ⟨n, by assumption, List.mem_singleton.1 h⟩
    · rename_i hn
      rcases List.mem_append.1 h with h | h
      · exact ih (n / b) (Nat.div_lt_self (by omega) hb) h
      · exact ⟨n % b, Nat.mod_lt n (by omega), List.mem_singleton.1 h⟩

theorem isPlain_digitChar {n : Nat} (h : n < 16) : IsPlain (Nat.digitChar n) := by
  have hrange : ∀ n < 16, IsPlain (Nat.digitChar n) := by decide
  exact hrange n h

theorem isPlain_of_mem_escapeCode {c d : Char} (h : d ∈ escapeCode c) : IsPlain d := by
  simp only [escapeCode, List.mem_append, List.mem_cons, List.not_mem_nil, or_false] at h
  rcases h with ((rfl | rfl | rfl) | h) | rfl
  · decide
  · decide
  · decide
  · obtain ⟨n, hn, rfl⟩ := exists_of_mem_toDigits (by decide) h
    exact isPlain_digitChar hn
  · decide

/-- What is written for a character is plain, or it is the character itself. -/
theorem isPlain_or_of_mem_escape {quotes : List Char} {c d : Char}
    (hquotes : ∀ q ∈ quotes, isPrintable q = true) (h : d ∈ escape quotes c) :
    IsPlain d ∨ d = c ∧ isPrintable c = true := by
  -- A backslash and the name of the character.
  have hnamed {e : Char} (he : IsPlain e) (h : d ∈ ['\\', e]) : IsPlain d := by
    simp only [List.mem_cons, List.not_mem_nil, or_false] at h
    rcases h with rfl | rfl
    · decide
    · exact he
  unfold escape at h
  split at h
  · exact .inl (hnamed (by decide) h)
  split at h
  · exact .inl (hnamed (by decide) h)
  split at h
  · exact .inl (hnamed (by decide) h)
  split at h
  · exact .inl (hnamed (by decide) h)
  split at h
  · rename_i hc
    simp only [List.mem_cons, List.not_mem_nil, or_false] at h
    rcases h with rfl | rfl
    · exact .inl (by decide)
    · rcases hc with rfl | hc
      · exact .inl (by decide)
      · exact .inr ⟨rfl, hquotes _ hc⟩
  split at h
  · rename_i hc
    exact .inr ⟨List.mem_singleton.1 h, hc⟩
  · exact .inl (isPlain_of_mem_escapeCode h)

theorem isPrintable_of_mem_escape {quotes : List Char} {c d : Char}
    (hquotes : ∀ q ∈ quotes, isPrintable q = true) (h : d ∈ escape quotes c) :
    isPrintable d = true := by
  rcases isPlain_or_of_mem_escape hquotes h with h | ⟨rfl, h⟩
  · exact h.isPrintable
  · exact h

end Reckon.Text
