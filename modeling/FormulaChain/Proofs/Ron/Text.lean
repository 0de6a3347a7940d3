import FormulaChain.Proofs.Text.Run
import FormulaChain.Ron.Stored
import Mathlib.Data.List.Basic
import Mathlib.Data.Nat.Digits.Defs
import Mathlib.Tactic.SplitIfs

/-!
# Lexemes of documents are read back

A text is read back from its quoted form whatever its characters are, and what stands behind the
closing quote is left (`readString?_quotedStrictly`): each character is read from its escape
(`readPieces?_escapeChar`), one with a code point in braces because a code point has at most six
digits. Blanks between lexemes are left out (`skipBlank?_append`), and a name is read up to the sign
that ends it (`readName?_append`).
-/

namespace FormulaChain

/-! ### Hexadecimal digits -/

namespace Text

theorem hexValue?_digitChar : ∀ d < 16, hexValue? (Nat.digitChar d) = some d := by
  decide

theorem hexNumber?_append (n : Nat) (digits more : List Char) :
    hexNumber? n (digits ++ more) = (hexNumber? n digits).bind (hexNumber? · more) := by
  induction digits generalizing n with
  | nil => rfl
  | cons c digits ih =>
    rw [List.cons_append, hexNumber?, hexNumber?, Option.bind_assoc]
    simp only [ih]

/-- A number is read from its digits. -/
theorem hexNumber?_toDigits (n : Nat) : hexNumber? 0 (Nat.toDigits 16 n) = some n := by
  induction n using Nat.strongRecOn with
  | _ n ih =>
    by_cases hn : n < 16
    · rw [Nat.toDigits_of_lt_base hn, hexNumber?, hexValue?_digitChar n hn]
      simp [hexNumber?]
    · have hlast : hexValue? (Nat.digitChar (n % 16)) = some (n % 16) :=
        hexValue?_digitChar _ (Nat.mod_lt n (by decide))
      rw [Nat.toDigits_of_base_le (by decide) (Nat.not_lt.mp hn), hexNumber?_append,
        ih (n / 16) (by omega), Option.bind_some, hexNumber?, hlast, Option.bind_some, hexNumber?,
        Nat.div_add_mod]

/-- A code point has six digits at most. -/
theorem length_toDigits_toNat_le (c : Char) : (Nat.toDigits 16 c.toNat).length ≤ 6 := by
  have hvalid : c.toNat < 0xD800 ∨ 0xDFFF < c.toNat ∧ c.toNat < 0x110000 := c.valid
  exact Nat.toDigits_length 16 c.toNat 6 (by decide) (by omega)

end Text

namespace Ron

/-! ### Quoted texts -/

/-- What is read after a character stands behind it. -/
def behind (c : Char) (read : Option (List Piece × List Char)) : Option (List Piece × List Char) :=
  read.map fun (pieces, rest) => (.char c :: pieces, rest)

variable {c d : Char}

theorem readPieces?_plain (hq : c ≠ '"') (hb : c ≠ '\\') (rest : List Char) :
    readPieces? '"' .none (c :: rest) = behind c (readPieces? '"' .none rest) := by
  rw [readPieces?, if_neg hq, if_neg hb]
  rfl

theorem readPieces?_letter (h : escapedChar? c = some d) (rest : List Char) :
    readPieces? '"' .none ('\\' :: c :: rest) = behind d (readPieces? '"' .none rest) := by
  rw [readPieces?, if_neg (by decide), if_pos rfl, readPieces?, h]
  rfl

/-- Digits in braces are read as long as there are six at most. -/
theorem readPieces?_digits {digits : List Char} {count value number : Nat}
    (hcount : count + digits.length ≤ 6) (h : Text.hexNumber? value digits = some number)
    (rest : List Char) :
    readPieces? '"' (.code count value) (digits ++ rest) =
      readPieces? '"' (.code (count + digits.length) number) rest := by
  induction digits generalizing count value with
  | nil => rw [Option.some.inj h]; rfl
  | cons c digits ih =>
    obtain ⟨digit, hdigit, hmore⟩ := Option.bind_eq_some_iff.mp h
    have hbrace : c ≠ '\x7d' := by
      rintro rfl
      cases hdigit
    rw [List.length_cons] at hcount
    rw [List.cons_append, readPieces?, if_neg hbrace, hdigit]
    show (if count < 6 then _ else none) = _
    rw [if_pos (by omega), ih (by omega) hmore, List.length_cons, Nat.add_right_comm, Nat.add_assoc]

theorem readPieces?_codeEscape (c : Char) (rest : List Char) :
    readPieces? '"' .none (Text.codeEscape c ++ rest) = behind c (readPieces? '"' .none rest) := by
  have hchar : codeChar? (Nat.toDigits 16 c.toNat).length c.toNat = some c := by
    rw [codeChar?, if_pos ⟨Nat.length_toDigits_pos, c.valid⟩, Char.ofNat_toNat]
  have hcount : 0 + (Nat.toDigits 16 c.toNat).length ≤ 6 :=
    (Nat.zero_add _).trans_le (Text.length_toDigits_toNat_le c)
  have hdigits := readPieces?_digits hcount (Text.hexNumber?_toDigits c.toNat) ('\x7d' :: rest)
  rw [Nat.zero_add, readPieces?, if_pos rfl, hchar] at hdigits
  simp only [Text.codeEscape, List.cons_append, List.append_assoc, List.nil_append]
  rw [readPieces?, if_neg (by decide), if_pos rfl, readPieces?]
  show readPieces? '"' (.code 0 0) _ = _
  rw [hdigits]
  cases readPieces? '"' .none rest <;> rfl

/-- A character is read from its escape. -/
theorem readPieces?_escapeChar (c : Char) (rest : List Char) :
    readPieces? '"' .none (Text.escapeChar ['"', '\''] c ++ rest) =
      behind c (readPieces? '"' .none rest) := by
  unfold Text.escapeChar
  split_ifs with h1 h2 h3 h4 h5 h6
  · rw [h1]; exact readPieces?_letter rfl rest
  · rw [h2]; exact readPieces?_letter rfl rest
  · rw [h3]; exact readPieces?_letter rfl rest
  · rw [h4]; exact readPieces?_letter rfl rest
  · refine readPieces?_letter ?_ rest
    rcases h5 with rfl | hquote
    · rfl
    · rcases List.mem_pair.mp hquote with rfl | rfl <;> rfl
  · exact readPieces?_codeEscape c rest
  · refine readPieces?_plain ?_ ?_ rest
    · rintro rfl
      exact h5 (.inr List.mem_cons_self)
    · exact fun hb => h5 (.inl hb)

/-- Escaped characters are read up to the closing quote. -/
theorem readPieces?_escaped (chars rest : List Char) :
    readPieces? '"' .none (chars.flatMap (Text.escapeChar ['"', '\'']) ++ '"' :: rest) =
      some (chars.map .char, rest) := by
  induction chars with
  | nil => rfl
  | cons c chars ih =>
    rw [List.flatMap_cons, List.append_assoc, readPieces?_escapeChar, ih]
    rfl

/-- Where no byte waits for others, characters stand for themselves. -/
theorem joinPieces?_chars (chars : List Char) : joinPieces? [] (chars.map .char) = some chars := by
  induction chars with
  | nil => rfl
  | cons c chars ih => rw [List.map_cons, joinPieces?, ih, Option.map_some]

/-- **A text is read back** from its quoted form, whatever its characters are. -/
theorem readString?_quotedStrictly (s : String) (rest : List Char) :
    readString? ((Text.quotedStrictly s).toList ++ rest) = some (s, rest) := by
  have hquoted : (Text.quotedStrictly s).toList ++ rest =
      '"' :: (s.toList.flatMap (Text.escapeChar ['"', '\'']) ++ '"' :: rest) := by
    simp [Text.quotedStrictly, Text.quoteWith]
  rw [hquoted, readString?, readText?, readQuoted?, readPieces?_escaped]
  simp [joinPieces?_chars]

/-! ### Blanks -/

/-- A character that begins no comment is left out or not. -/
theorem skipBlank?_step (hslash : c ≠ '/') (text : List Char) :
    skipBlank? (c :: text) = if isBlank c = true then skipBlank? text else some (c :: text) := by
  rw [skipBlank?, skip?, if_neg hslash]
  · rfl
  · exact fun _ h _ => hslash h
  · exact fun _ h _ => hslash h

theorem skipBlank?_cons (hblank : isBlank c = false) (hslash : c ≠ '/') (text : List Char) :
    skipBlank? (c :: text) = some (c :: text) := by
  rw [skipBlank?_step hslash, hblank, if_neg Bool.false_ne_true]

theorem skipBlank?_append {blanks : List Char} (h : ∀ c ∈ blanks, isBlank c = true)
    (text : List Char) : skipBlank? (blanks ++ text) = skipBlank? text := by
  induction blanks with
  | nil => rfl
  | cons c blanks ih =>
    obtain ⟨hc, hblanks⟩ := List.forall_mem_cons.mp h
    have hslash : c ≠ '/' := by
      rintro rfl
      cases hc
    rw [List.cons_append, skipBlank?_step hslash, if_pos hc, ih hblanks]

/-- What is left after blanks and comments begins with neither. -/
theorem skipBlank?_idem {text left : List Char} (h : skipBlank? text = some left) :
    skipBlank? left = some left := by
  -- a comment that is left out may have been begun before
  suffices ∀ state, skip? state text = some left → skipBlank? left = some left from this .blanks h
  intro state hskip
  clear h
  fun_induction skip? state text with
  | case1 => cases hskip; rfl
  | case4 => cases hskip
  | case6 c rest _ _ hslash hblank =>
    cases hskip
    exact skipBlank?_cons (Bool.not_eq_true _ ▸ hblank) hslash rest
  | case7 => cases hskip; rfl
  | case10 => cases hskip
  | _ => rename_i ih; exact ih hskip

theorem isBlank_of_mem_lineBreak (layout : Layout) : ∀ c ∈ layout.lineBreak, isBlank c = true := by
  cases layout with
  | none => intro c hc; cases hc
  | some depth =>
    intro c hc
    rcases List.mem_cons.mp hc with rfl | hc
    · rfl
    · rw [(List.mem_replicate.mp hc).2]
      rfl

theorem skipBlank?_lineBreak (layout : Layout) (text : List Char) :
    skipBlank? (layout.lineBreak ++ text) = skipBlank? text :=
  skipBlank?_append (isBlank_of_mem_lineBreak layout) text

/-- A comma stands behind a value unless it is the last one and all is on one line. -/
theorem comma_cases (layout : Layout) (isLast : Bool) :
    layout.comma isLast = [','] ∨ isLast = true ∧ layout.comma isLast = [] := by
  cases isLast
  · exact .inl rfl
  · cases layout with
    | none => exact .inr ⟨rfl, rfl⟩
    | some depth => exact .inl rfl

theorem skipBlank?_blank (layout : Layout) (text : List Char) :
    skipBlank? (layout.blank ++ text) = skipBlank? text := by
  refine skipBlank?_append ?_ text
  cases layout with
  | none => intro c hc; cases hc
  | some depth => intro c hc; rw [List.mem_singleton.mp hc]; rfl

/-! ### Names and words -/

/-- A name that can be written as it is. -/
def IsName (name : String) : Prop :=
  ∃ c cs, name.toList = c :: cs ∧ startsName c = true ∧ ∀ d ∈ cs, Text.continuesIdentifier d = true

instance (name : String) : Decidable (IsName name) :=
  decidable_of_iff (name.toList.head?.any startsName = true ∧
      name.toList.tail.all Text.continuesIdentifier = true) <| by
    rw [IsName]
    cases name.toList <;> simp

/-- A word ends where this follows. -/
def EndsWord (rest : List Char) : Prop := ∀ c ∈ rest.head?, Text.continuesIdentifier c = false

theorem endsWord_cons (h : Text.continuesIdentifier c = false) (rest : List Char) :
    EndsWord (c :: rest) := fun _ hc => Option.some.inj hc ▸ h

/-- The characters that may stand behind words in documents, and the mark of a raw name. -/
def signs : List Char := ['\n', ' ', '(', ')', ',', ':', '#']

theorem continuesIdentifier_of_mem_signs (h : c ∈ signs) : Text.continuesIdentifier c = false := by
  have hall : signs.all (!Text.continuesIdentifier ·) = true := by
    decide +kernel
  exact (Bool.not_eq_true' _).mp (List.all_eq_true.mp hall c h)

theorem endsWord_lineBreak (layout : Layout) {rest : List Char} (h : EndsWord rest) :
    EndsWord (layout.lineBreak ++ rest) := by
  cases layout with
  | none => exact h
  | some depth => exact endsWord_cons (continuesIdentifier_of_mem_signs (by decide)) _

/-- Signs and blanks that may stand before names, apart from the common blanks. -/
def leadingSigns : List Char := ['/', ')', '\u0085', '\u200e', '\u200f', '\u2028', '\u2029']

theorem startsName_of_mem_leadingSigns (h : c ∈ leadingSigns) : startsName c = false := by
  have hall : leadingSigns.all (!startsName ·) = true := by
    decide +kernel
  exact (Bool.not_eq_true' _).mp (List.all_eq_true.mp hall c h)

theorem startsName_controls : ∀ n ≤ 32, startsName (Char.ofNat n) = false := by
  decide +kernel

theorem isBlank_of_startsName (h : startsName c = true) : isBlank c = false := by
  refine Bool.not_eq_true _ ▸ fun hblank => ?_
  have hsign (hc : startsName c = false) : False := Bool.false_ne_true (hc.symm.trans h)
  have hcontrol (hc : c.toNat ≤ 32) : False :=
    hsign (Char.ofNat_toNat c ▸ startsName_controls c.toNat hc)
  simp only [isBlank, Bool.or_eq_true, Bool.and_eq_true, decide_eq_true_eq] at hblank
  rcases hblank with (((((rfl | ⟨-, hc⟩) | hc) | hc) | hc) | hc) | hc
  · exact hcontrol (by decide)
  · exact hcontrol (le_trans (UInt32.le_iff_toNat_le.mp hc) (by decide))
  all_goals exact hsign (startsName_of_mem_leadingSigns (by simp [leadingSigns, hc]))

section Name

variable {name : String}

/-- A name can be seen, and is no closing parenthesis. -/
theorem IsName.visible (h : IsName name) (rest : List Char) :
    skipBlank? (name.toList ++ rest) = some (name.toList ++ rest) ∧
      (name.toList ++ rest).head? ≠ some ')' := by
  obtain ⟨c, cs, hname, hc, -⟩ := h
  have hne (sign : Char) (hsign : startsName sign = false) : c ≠ sign := by
    rintro rfl
    exact Bool.false_ne_true (hsign.symm.trans hc)
  rw [hname, List.cons_append]
  have hslash : c ≠ '/' := hne '/' (startsName_of_mem_leadingSigns (by decide))
  have hclosing : c ≠ ')' := hne ')' (startsName_of_mem_leadingSigns (by decide))
  exact ⟨skipBlank?_cons (isBlank_of_startsName hc) hslash _,
    fun heq => hclosing (Option.some.inj heq)⟩

/-- A name is read up to the colon behind it. -/
theorem readName?_append (h : IsName name) (rest : List Char) :
    readName? (name.toList ++ ':' :: rest) = some (name, ':' :: rest) := by
  obtain ⟨c, cs, hname, hc, hcs⟩ := h
  have hcolon : ∀ d ∈ (':' :: rest).head?, Text.continuesIdentifier d = false :=
    endsWord_cons (continuesIdentifier_of_mem_signs (by decide)) rest
  rw [hname, List.cons_append, readName?]
  · rw [Text.takeWhile_append_of_head hcs hcolon, Text.dropWhile_append_of_head hcs hcolon, hc,
      ← hname, String.ofList_toList, if_pos]
    simp [isRawPart, continuesIdentifier_of_mem_signs (c := ':') (by decide)]
  · -- the mark of a raw name is no part of one
    rintro more rfl hmark
    cases cs with
    | nil => cases hmark
    | cons d cs =>
      cases hmark
      have := hcs '#' List.mem_cons_self
      rw [continuesIdentifier_of_mem_signs (by decide)] at this
      cases this

end Name

/-- A word is left out up to its end. -/
theorem skipWord?_append (word : String) {rest : List Char} (h : EndsWord rest) :
    skipWord? word (word.toList ++ rest) = some rest := by
  have hdrop : (word.toList ++ rest).drop word.length = rest := by
    rw [← String.length_toList, List.drop_left]
  rw [skipWord?, hdrop, if_pos]
  cases rest with
  | nil => simp
  | cons c rest => simp [h c rfl]

end Ron

end FormulaChain
