import DataSchema.Json.Parser
import DataSchema.Json.Printer
import DataSchema.Proofs.Text.Blank

/-!
# DataSchema.Proofs.Json.Scalar

**Strings and numbers are read back as they were written**, whatever text follows them. A string is
written one character at a time, so one lemma about a character carries it (`exists_piece`): what is
written for a character is read as one piece, and that piece stands for the character. A number has no
closing mark. It is read back when the text after it cannot go on with it, which is what `Delimited`
says.
-/

namespace DataSchema.Json

open Text (takeWhile_append_of_stop dropWhile_append_of_stop)

/-! ### Strings -/

/-- What a reader of pieces answers with one more piece in front. -/
def consPiece (piece : StringPiece) :
    Option (List StringPiece × List Char) → Option (List StringPiece × List Char) :=
  Option.map fun (pieces, after) => (piece :: pieces, after)

theorem stringPieces_escaped {letter c : Char} (hletter : letter ≠ 'u')
    (h : escapedChar? letter = some c) (s : List Char) :
    stringPieces ('\\' :: letter :: s) = consPiece (.char c) (stringPieces s) := by
  rw [stringPieces]
  · rw [h]
    cases stringPieces s <;> rfl
  · intro _ _ _ _ _ hu
    exact absurd hu hletter

theorem hexNumber?_control {n : Nat} (h : n < 32) :
    Text.hexNumber? ['0', '0', Text.hexDigit (n / 16), Text.hexDigit (n % 16)] = some n := by
  have hzero : Text.hexValue? '0' = some 0 := by decide
  have hhigh : Text.hexValue? (Text.hexDigit (n / 16)) = some (n / 16) :=
    Text.hexValue?_hexDigit (by omega)
  have hlow : Text.hexValue? (Text.hexDigit (n % 16)) = some (n % 16) :=
    Text.hexValue?_hexDigit (by omega)
  simp only [Text.hexNumber?, List.foldlM_cons, List.foldlM_nil, hzero, hhigh, hlow,
    Option.map_some, Option.bind_eq_bind, Option.bind_some, Option.pure_def, Option.some.injEq]
  omega

theorem stringPieces_control {n : Nat} (h : n < 32) (s : List Char) :
    stringPieces ('\\' :: 'u' :: '0' :: '0' :: Text.hexDigit (n / 16) :: Text.hexDigit (n % 16) :: s) =
      consPiece (.unit n) (stringPieces s) := by
  rw [stringPieces, hexNumber?_control h]
  cases stringPieces s <;> rfl

theorem stringPieces_plain {c : Char} (hquote : c ≠ '"') (hbackslash : c ≠ '\\')
    (hcontrol : ¬ c.toNat < 32) (s : List Char) :
    stringPieces (c :: s) = consPiece (.char c) (stringPieces s) := by
  rw [stringPieces]
  · rw [if_neg (by simp [hcontrol, hbackslash])]
    cases stringPieces s <;> rfl
  · exact hquote
  · intro _ _ _ _ _ h
    exact absurd h hbackslash
  · intro _ _ h
    exact absurd h hbackslash

theorem joinPieces?_control {c : Char} (h : c.toNat < 32) (pieces : List StringPiece) :
    joinPieces? (.unit c.toNat :: pieces) = (joinPieces? pieces).map (c :: ·) := by
  have hhigh : isHighSurrogate c.toNat = false := by
    simp only [isHighSurrogate, Bool.and_eq_false_iff, decide_eq_false_iff_not]
    omega
  have hlow : isLowSurrogate c.toNat = false := by
    simp only [isLowSurrogate, Bool.and_eq_false_iff, decide_eq_false_iff_not]
    omega
  conv_lhs => rw [joinPieces?.eq_def]
  simp [hhigh, hlow, Char.ofNat_toNat]

/-- What is written for a character is read as one piece, which stands for the character. -/
theorem exists_piece (c : Char) : ∃ piece,
    (∀ s, stringPieces (escapeChar c ++ s) = consPiece piece (stringPieces s)) ∧
      ∀ pieces, joinPieces? (piece :: pieces) = (joinPieces? pieces).map (c :: ·) := by
  by_cases hquote : c = '"'
  · subst hquote
    exact ⟨.char '"', stringPieces_escaped (by decide) (by decide), fun _ => rfl⟩
  by_cases hbackslash : c = '\\'
  · subst hbackslash
    exact ⟨.char '\\', stringPieces_escaped (by decide) (by decide), fun _ => rfl⟩
  by_cases hnewline : c = '\n'
  · subst hnewline
    exact ⟨.char '\n', stringPieces_escaped (by decide) (by decide), fun _ => rfl⟩
  by_cases hreturn : c = '\r'
  · subst hreturn
    exact ⟨.char '\r', stringPieces_escaped (by decide) (by decide), fun _ => rfl⟩
  by_cases htab : c = '\t'
  · subst htab
    exact ⟨.char '\t', stringPieces_escaped (by decide) (by decide), fun _ => rfl⟩
  by_cases hbackspace : c.toNat = 8
  · obtain rfl : Char.ofNat 8 = c := by rw [← hbackspace, Char.ofNat_toNat]
    exact ⟨.char (Char.ofNat 8), stringPieces_escaped (by decide) (by decide), fun _ => rfl⟩
  by_cases hformFeed : c.toNat = 12
  · obtain rfl : Char.ofNat 12 = c := by rw [← hformFeed, Char.ofNat_toNat]
    exact ⟨.char (Char.ofNat 12), stringPieces_escaped (by decide) (by decide), fun _ => rfl⟩
  by_cases hcontrol : c.toNat < 32
  · refine ⟨.unit c.toNat, fun s => ?_, joinPieces?_control hcontrol⟩
    rw [← stringPieces_control hcontrol]
    simp [escapeChar, *]
  · refine ⟨.char c, fun s => ?_, fun _ => rfl⟩
    rw [← stringPieces_plain hquote hbackslash hcontrol]
    simp [escapeChar, *]

/-- The pieces of a written string are read up to its closing quote, and make the string. -/
theorem exists_stringPieces (s rest : List Char) : ∃ pieces,
    stringPieces (s.flatMap escapeChar ++ '"' :: rest) = some (pieces, rest) ∧
      joinPieces? pieces = some s := by
  induction s with
  | nil => exact ⟨[], by simp [stringPieces], rfl⟩
  | cons c s ih =>
      obtain ⟨pieces, hread, hjoin⟩ := ih
      obtain ⟨piece, hpiece, hchar⟩ := exists_piece c
      refine ⟨piece :: pieces, ?_, ?_⟩
      · rw [List.flatMap_cons, List.append_assoc, hpiece, hread]
        rfl
      · rw [hchar, hjoin]
        rfl

theorem readToken_renderString (s : String) (rest : List Char) :
    readToken (renderString s ++ rest) = some (.string (some s), rest) := by
  obtain ⟨pieces, hread, hjoin⟩ := exists_stringPieces s.toList rest
  have htext : renderString s ++ rest = '"' :: (s.toList.flatMap escapeChar ++ '"' :: rest) := by
    simp [renderString]
  rw [htext, readToken, hread]
  simp [hjoin]

/-! ### Numbers -/

/-- The text cannot go on with a number. -/
def Delimited (s : List Char) : Prop :=
  ∀ c ∈ s.head?, c.isDigit = false ∧ c ≠ '.' ∧ c ≠ 'e' ∧ c ≠ 'E'

theorem delimited_nil : Delimited [] := by simp [Delimited]

theorem digit_of_lt {n : Nat} (h : n < 10) :
    (Char.ofNat (n + 48)).isDigit = true ∧ (Char.ofNat (n + 48)).toNat - 48 = n ∧
      (Char.ofNat (n + 48) = '0' → n = 0) := by
  have hall : ∀ d : Fin 10, (Char.ofNat (d.val + 48)).isDigit = true ∧
      (Char.ofNat (d.val + 48)).toNat - 48 = d.val ∧
        (Char.ofNat (d.val + 48) = '0' → d.val = 0) := by decide
  exact hall ⟨n, h⟩

theorem isDigit_of_mem_digitsReversed (n : Nat) : ∀ c ∈ digitsReversed n, c.isDigit = true := by
  fun_induction digitsReversed n with
  | case1 n hn =>
      intro c hc
      rw [List.mem_singleton.mp hc]
      exact (digit_of_lt hn).1
  | case2 n hn ih =>
      intro c hc
      rcases List.mem_cons.mp hc with rfl | hc
      · exact (digit_of_lt (Nat.mod_lt n (by decide))).1
      · exact ih c hc

theorem isDigit_of_mem_renderNat {n : Nat} : ∀ c ∈ renderNat n, c.isDigit = true :=
  fun c hc => isDigit_of_mem_digitsReversed n c (List.mem_reverse.mp hc)

theorem natOfDigits_concat (digits : List Char) (c : Char) :
    natOfDigits (digits ++ [c]) = natOfDigits digits * 10 + (c.toNat - 48) := by
  rw [natOfDigits, List.foldl_append]
  rfl

theorem natOfDigits_renderNat (n : Nat) : natOfDigits (renderNat n) = n := by
  unfold renderNat
  fun_induction digitsReversed n with
  | case1 n hn =>
      have hvalue := (digit_of_lt hn).2.1
      simp [natOfDigits, hvalue]
  | case2 n hn ih =>
      have hvalue := (digit_of_lt (Nat.mod_lt n (by decide))).2.1
      rw [List.reverse_cons, natOfDigits_concat, ih, hvalue]
      omega

/-- Only zero is written with a zero in front. -/
theorem exists_leading_digit {n : Nat} (h : 0 < n) :
    ∃ c rest, renderNat n = c :: rest ∧ c ≠ '0' := by
  have hlast : ∃ front c, digitsReversed n = front ++ [c] ∧ c ≠ '0' := by
    fun_induction digitsReversed n with
    | case1 n hn =>
        refine ⟨[], _, rfl, fun hzero => ?_⟩
        have hn0 := (digit_of_lt hn).2.2 hzero
        omega
    | case2 n hn ih =>
        obtain ⟨front, c, hdigits, hc⟩ := ih (by omega)
        exact ⟨_ :: front, c, by rw [hdigits, List.cons_append], hc⟩
  obtain ⟨front, c, hdigits, hc⟩ := hlast
  exact ⟨c, front.reverse, by simp [renderNat, hdigits], hc⟩

theorem renderNat_zero : renderNat 0 = ['0'] := by
  rw [renderNat, digitsReversed]
  rfl

theorem exists_cons_renderNat (n : Nat) : ∃ c rest, renderNat n = c :: rest ∧ c.isDigit = true := by
  have hdigits := @isDigit_of_mem_renderNat n
  rcases Nat.eq_zero_or_pos n with rfl | hn
  · exact ⟨'0', [], renderNat_zero, by decide⟩
  · obtain ⟨c, rest, hrender, -⟩ := exists_leading_digit hn
    exact ⟨c, rest, hrender, hdigits c (by simp [hrender])⟩

theorem integerPart_renderNat (n : Nat) {rest : List Char}
    (stop : ∀ c ∈ rest.head?, c.isDigit = false) :
    integerPart (renderNat n ++ rest) = some (renderNat n, rest) := by
  rcases Nat.eq_zero_or_pos n with rfl | hn
  · rw [renderNat_zero, List.singleton_append, integerPart, if_pos rfl]
  · obtain ⟨c, digits, hrender, hc⟩ := exists_leading_digit hn
    have hdigits : ∀ d ∈ c :: digits, d.isDigit = true := hrender ▸ isDigit_of_mem_renderNat
    have hc' : c.isDigit = true := hdigits c (List.mem_cons_self ..)
    have hrun : ∀ d ∈ digits, d.isDigit = true := fun d hd => hdigits d (List.mem_cons_of_mem _ hd)
    rw [hrender, List.cons_append, integerPart, if_neg hc, if_pos hc',
      takeWhile_append_of_stop hrun stop, dropWhile_append_of_stop hrun stop]

theorem skipFraction_of_delimited {s : List Char} (h : Delimited s) : skipFraction s = some s := by
  unfold skipFraction
  split
  · exact absurd rfl (h '.' rfl).2.1
  · rfl

theorem skipExponent_of_delimited {s : List Char} (h : Delimited s) : skipExponent s = some s := by
  unfold skipExponent
  split
  · exact absurd rfl (h 'e' rfl).2.2.1
  · exact absurd rfl (h 'E' rfl).2.2.2
  · rfl

theorem readNumber_renderNat (n : Nat) {rest : List Char} (h : Delimited rest) :
    readNumber (renderNat n ++ rest) = some (nat n, rest) := by
  have hminus : skipMinus (renderNat n ++ rest) = renderNat n ++ rest := by
    obtain ⟨c, digits, hrender, hc⟩ := exists_cons_renderNat n
    rw [hrender, List.cons_append]
    unfold skipMinus
    split
    · next he =>
        cases he
        exact absurd hc (by decide)
    · rfl
  have hinteger := integerPart_renderNat n fun c hc => (h c hc).1
  rw [readNumber, hminus, hinteger]
  simp [skipFraction_of_delimited h, skipExponent_of_delimited h, natOfDigits_renderNat]

theorem readToken_renderNat (n : Nat) {rest : List Char} (h : Delimited rest) :
    readToken (renderNat n ++ rest) = some (.scalar (nat n), rest) := by
  have hnumber := readNumber_renderNat n h
  obtain ⟨c, digits, hrender, hc⟩ := exists_cons_renderNat n
  rw [hrender, List.cons_append] at hnumber ⊢
  -- A digit starts no other token.
  unfold readToken
  split
  case h_12 => rw [hnumber]; rfl
  case h_1 he => simp at he
  all_goals
    next he =>
      cases he
      exact absurd hc (by decide)

end DataSchema.Json
