import Mathlib.Tactic.Ring
import ReferenceData.GuidCase

namespace ReferenceData

section Reading

theorem digit_ne (letter other : Char) (digit : HexText.isDigit letter = true)
    (not : HexText.isDigit other = false) : letter ≠ other := by
  intro same
  rw [same, not] at digit
  cases digit

/-- Where there are digits alone there is nothing to pass over. -/
theorem tryParseHex_digits (text : List Char)
    (digits : ∀ letter ∈ text, HexText.isDigit letter = true) :
    tryParseHex text = HexText.readOnto 0 text := by
  have absent : ∀ (index : Nat) (other : Char), HexText.isDigit other = false →
      text[index]? ≠ some other := by
    intro index other not found
    exact digit_ne other other (digits other (List.mem_of_getElem? found)) not rfl
  have unsigned : dropSign text = text := if_neg (absent 0 '+' (by decide))
  have unmarked : isHexMark text = false := by
    simp [isHexMark, absent 1 'x' (by decide), absent 1 'X' (by decide)]
  rw [tryParseHex, unsigned, dropHexMark, unmarked]
  rfl

theorem tryParseHex_fixed (width value : Nat) :
    tryParseHex (HexText.fixed width value) = some (value % 16 ^ width) := by
  rw [tryParseHex_digits _ (HexText.fixed_isDigit width value), HexText.readOnto_fixed]
  simp

theorem readOnto_zero (width value : Nat) :
    HexText.readOnto 0 (HexText.fixed width value) = some (value % 16 ^ width) := by
  rw [HexText.readOnto_fixed]
  simp

variable (value : Nat) (bound : value < 16 ^ 32)

theorem slices_digitsD : slice (digitsD value) 0 8 = HexText.fixed 8 (value / 16 ^ 24) ∧
    slice (digitsD value) 9 4 = HexText.fixed 4 (value / 16 ^ 20) ∧
    slice (digitsD value) 14 4 = HexText.fixed 4 (value / 16 ^ 16) ∧
    slice (digitsD value) 19 4 = HexText.fixed 4 (value / 16 ^ 12) ∧
    slice (digitsD value) 24 4 = HexText.fixed 4 (value / 16 ^ 8) ∧
    slice (digitsD value) 28 8 = HexText.fixed 8 value := by
  refine ⟨?_, ?_, ?_, ?_, ?_, ?_⟩ <;>
    simp [slice, digitsD, List.drop_append, HexText.fixed_length,
      HexText.fixed_drop, HexText.fixed_take]

theorem digitsD_length : (digitsD value).length = 36 := by
  simp [digitsD, HexText.fixed_length]

theorem digitsD_dashes : (digitsD value)[8]? = some '-' ∧ (digitsD value)[13]? = some '-' ∧
    (digitsD value)[18]? = some '-' ∧ (digitsD value)[23]? = some '-' := by
  simp [digitsD, HexText.fixed_length]

theorem slice_enclosed (opening closing : Char) :
    slice (opening :: digitsD value ++ [closing]) 1 36 = digitsD value := by
  simp [slice, digitsD_length]

include bound in
theorem tryParseExactN_digitsN : tryParseExactN (digitsN value) = some value := by
  rw [tryParseExactN, digitsN, if_pos (HexText.fixed_length 32 value), readOnto_zero,
    Nat.mod_eq_of_lt bound]

include bound in
theorem tryParseExactD_digitsD : tryParseExactD (digitsD value) = some value := by
  obtain ⟨a, b, c, de, fg, hijk⟩ := slices_digitsD value
  rw [tryParseExactD, if_pos ⟨digitsD_length value, digitsD_dashes value⟩, a, b, c, de, fg, hijk]
  simp only [tryParseHex_fixed, readOnto_zero, Option.bind_eq_bind, Option.bind_some,
    Option.pure_def, Option.some.injEq]
  omega

include bound in
theorem tryParseEnclosed_digitsD (opening closing : Char) :
    tryParseEnclosed opening closing (opening :: digitsD value ++ [closing]) = some value := by
  have shape : (opening :: digitsD value ++ [closing]).length = 38 ∧
      (opening :: digitsD value ++ [closing])[0]? = some opening ∧
      (opening :: digitsD value ++ [closing])[37]? = some closing := by
    simp [digitsD_length]
  rw [tryParseEnclosed, if_pos shape, slice_enclosed, tryParseExactD_digitsD value bound]

theorem takeComponent_fixed (ending : Char) (apart : HexText.isDigit ending = false)
    (limit width : Nat) (some : 0 < width) (small : value % 16 ^ width < limit)
    (rest : List Char) :
    takeComponent ending limit (componentX width value ending rest) =
      .some (value % 16 ^ width, rest) := by
  have spared : ∀ letter ∈ HexText.fixed width value, (letter != ending) = true := by
    intro letter member
    have differ := digit_ne letter ending (HexText.fixed_isDigit width value letter member) apart
    simp [differ]
  have number : (HexText.fixed width value ++ ending :: rest).takeWhile
      (fun letter => letter != ending) = HexText.fixed width value := by
    rw [List.takeWhile_append_of_pos spared]
    simp
  have after : (HexText.fixed width value ++ ending :: rest).dropWhile
      (fun letter => letter != ending) = ending :: rest := by
    rw [List.dropWhile_append_of_pos spared]
    simp
  have nonempty : (HexText.fixed width value).isEmpty = false := by
    cases width with
    | zero => cases some
    | succ width => simp [HexText.fixed]
  simp [takeComponent, componentX, isHexMark, number, after, nonempty, tryParseHex_fixed, small]

theorem takeBytes_bytesX (endings : List Char)
    (apart : ∀ ending ∈ endings, HexText.isDigit ending = false) (start : Nat)
    (rest : List Char) :
    takeBytes endings start (bytesX value rest endings) =
      some (start * 16 ^ (2 * endings.length) + value % 16 ^ (2 * endings.length), rest) := by
  induction endings generalizing start with
  | nil => simp [takeBytes, bytesX, Nat.mod_one]
  | cons ending endings ih =>
      have head := takeComponent_fixed (value / 16 ^ (2 * endings.length)) ending
        (apart ending List.mem_cons_self) (2 ^ 8) 2 (by decide) (Nat.mod_lt _ (by decide))
        (bytesX value rest endings)
      have split : value % 16 ^ (2 * (endings.length + 1)) =
          value / 16 ^ (2 * endings.length) % 16 ^ 2 * 16 ^ (2 * endings.length) +
            value % 16 ^ (2 * endings.length) := by
        rw [Nat.mul_add, Nat.pow_add, Nat.mod_mul]
        ring
      rw [bytesX, takeBytes, head]
      simp only [List.length_cons]
      rw [ih (fun other member => apart other (List.mem_cons_of_mem _ member)), split]
      congr 2
      ring

theorem isDigit_not_white (letter : Char) (digit : HexText.isDigit letter = true) :
    isWhiteSpace letter = false := by
  have codes := (HexText.isDigit_iff letter).mp digit
  simp only [isWhiteSpace, decide_eq_false_iff_not, List.mem_cons, List.not_mem_nil, or_false]
  omega

variable (keeps : Char → Prop) (digits : ∀ letter, HexText.isDigit letter = true → keeps letter)
  (marks : keeps 'x' ∧ keeps ',' ∧ keeps '{' ∧ keeps '}')

include digits marks in
theorem componentX_letters (width : Nat) (ending : Char) (rest : List Char) (ends : keeps ending)
    (others : ∀ letter ∈ rest, keeps letter) :
    ∀ letter ∈ componentX width value ending rest, keeps letter := by
  intro letter member
  simp only [componentX, List.cons_append, List.mem_cons, List.mem_append] at member
  rcases member with rfl | rfl | inside | rfl | after
  · exact digits '0' (by decide)
  · exact marks.1
  · exact digits letter (HexText.fixed_isDigit width value letter inside)
  · exact ends
  · exact others letter after

include digits marks in
theorem bytesX_letters (rest endings : List Char) (ends : ∀ ending ∈ endings, keeps ending)
    (others : ∀ letter ∈ rest, keeps letter) :
    ∀ letter ∈ bytesX value rest endings, keeps letter := by
  induction endings with
  | nil => exact others
  | cons ending endings ih =>
      exact componentX_letters _ keeps digits marks 2 ending _ (ends ending List.mem_cons_self)
        (ih (fun other member => ends other (List.mem_cons_of_mem _ member)))

include digits marks in
theorem digitsX_letters : ∀ letter ∈ digitsX value, keeps letter := by
  have others := marks
  obtain ⟨_, comma, opening, closing⟩ := others
  have bytes := bytesX_letters value keeps digits marks ['}'] byteEndings
    (byteEndings_keep keeps comma closing) (by simpa using closing)
  have third := componentX_letters (value / 16 ^ 16) keeps digits marks 4 ','
    ('{' :: bytesX value ['}'] byteEndings) comma (List.forall_mem_cons.mpr ⟨opening, bytes⟩)
  have second := componentX_letters (value / 16 ^ 20) keeps digits marks 4 ',' _ comma third
  have first := componentX_letters (value / 16 ^ 24) keeps digits marks 8 ',' _ comma second
  exact List.forall_mem_cons.mpr ⟨opening, first⟩

theorem digitsX_solid : ∀ letter ∈ digitsX value, isWhiteSpace letter = false :=
  digitsX_letters value (fun letter => isWhiteSpace letter = false) isDigit_not_white (by decide)

include bound in
theorem tryParseExactX_digitsX : tryParseExactX (digitsX value) = some value := by
  have solid : (digitsX value).filter (fun letter => !isWhiteSpace letter) = digitsX value := by
    apply List.filter_eq_self.mpr
    intro letter member
    rw [digitsX_solid value letter member]
    rfl
  have bytes : takeTail ('{' :: bytesX value ['}'] byteEndings) = some (value % 16 ^ 16) := by
    have opens : ('{' :: bytesX value ['}'] byteEndings)[0]? = some '{' := rfl
    rw [takeTail, if_pos opens, List.drop_one, List.tail_cons,
      takeBytes_bytesX value byteEndings
        (byteEndings_keep _ (by decide) (by decide)) 0 ['}']]
    simp [byteEndings]
  have third := takeComponent_fixed (value / 16 ^ 16) ',' (by decide) (2 ^ 32) 4 (by decide)
    (by omega) ('{' :: bytesX value ['}'] byteEndings)
  have second := takeComponent_fixed (value / 16 ^ 20) ',' (by decide) (2 ^ 32) 4 (by decide)
    (by omega) (componentX 4 (value / 16 ^ 16) ',' ('{' :: bytesX value ['}'] byteEndings))
  have first := takeComponent_fixed (value / 16 ^ 24) ',' (by decide) (2 ^ 32) 8 (by decide)
    (by omega) (componentX 4 (value / 16 ^ 20) ','
      (componentX 4 (value / 16 ^ 16) ',' ('{' :: bytesX value ['}'] byteEndings)))
  have opens : (digitsX value)[0]? = some '{' := rfl
  simp only [tryParseExactX, solid]
  rw [if_pos opens, digitsX, List.drop_one, List.tail_cons, first]
  simp only [second, third, bytes, Option.bind_eq_bind, Option.bind_some, Option.pure_def,
    Option.some.injEq]
  omega

end Reading

section RoundTrip

theorem trimSpace_around (before text after : List Char)
    (front : ∀ letter ∈ before, isWhiteSpace letter = true)
    (back : ∀ letter ∈ after, isWhiteSpace letter = true)
    (solid : ∀ letter ∈ text, isWhiteSpace letter = false) :
    trimSpace (before ++ text ++ after) = text := by
  have stops : ∀ rest : List Char, (∀ letter ∈ rest, isWhiteSpace letter = false) →
      rest.dropWhile isWhiteSpace = rest := by
    intro rest solid
    cases rest with
    | nil => rfl
    | cons first rest =>
        apply List.dropWhile_cons_of_neg
        simp [solid first List.mem_cons_self]
  have reversed : ∀ letter ∈ after.reverse, isWhiteSpace letter = true :=
    fun letter member => back letter (List.mem_reverse.mp member)
  rw [trimSpace, List.append_assoc, List.dropWhile_append_of_pos front]
  cases text with
  | nil =>
      rw [List.nil_append, List.dropWhile_eq_nil_iff.mpr back]
      rfl
  | cons first rest =>
      have head : (first :: rest ++ after).dropWhile isWhiteSpace = first :: rest ++ after := by
        apply List.dropWhile_cons_of_neg
        simp [solid first List.mem_cons_self]
      rw [head, List.rdropWhile, List.reverse_append, List.dropWhile_append_of_pos reversed,
        stops _ (fun letter member => solid letter (List.mem_reverse.mp member)), List.reverse_reverse]

theorem digitsD_letters (value : Nat) :
    ∀ letter ∈ digitsD value, HexText.isDigit letter = true ∨ letter = '-' := by
  have digits := HexText.fixed_isDigit
  intro letter member
  simp only [digitsD, List.mem_append, List.mem_cons] at member
  rcases member with ((((first | rfl | second) | rfl | third) | rfl | fourth) | rfl | fifth) | last
  · exact Or.inl (digits 8 _ letter first)
  · exact Or.inr rfl
  · exact Or.inl (digits 4 _ letter second)
  · exact Or.inr rfl
  · exact Or.inl (digits 4 _ letter third)
  · exact Or.inr rfl
  · exact Or.inl (digits 4 _ letter fourth)
  · exact Or.inr rfl
  · exact Or.inl (digits 4 _ letter fifth)
  · exact Or.inl (digits 8 _ letter last)

theorem enclosed_solid (opening closing : Char) (value : Nat)
    (opens : isWhiteSpace opening = false) (closes : isWhiteSpace closing = false) :
    ∀ letter ∈ opening :: digitsD value ++ [closing], isWhiteSpace letter = false := by
  intro letter member
  simp only [List.cons_append, List.mem_cons, List.mem_append, List.not_mem_nil, or_false] at member
  rcases member with rfl | inside | rfl
  · exact opens
  · rcases digitsD_letters value letter inside with digit | rfl
    · exact isDigit_not_white letter digit
    · decide
  · exact closes

theorem guidText_solid (format : GuidFormat) (guid : Guid) :
    ∀ letter ∈ guidText format guid, isWhiteSpace letter = false := by
  cases format with
  | n =>
      intro letter member
      exact isDigit_not_white letter (HexText.fixed_isDigit 32 guid.toNat letter member)
  | d =>
      intro letter member
      exact enclosed_solid '{' '}' guid.toNat (by decide) (by decide) letter
        (List.mem_append_left _ (List.mem_cons_of_mem _ member))
  | b => exact enclosed_solid '{' '}' guid.toNat (by decide) (by decide)
  | p => exact enclosed_solid '(' ')' guid.toNat (by decide) (by decide)
  | x => exact digitsX_solid guid.toNat

theorem parseTrimmed_bare (first : Char) (rest : List Char)
    (digit : HexText.isDigit first = true) :
    parseTrimmed (first :: rest) =
      if '-' ∈ first :: rest then tryParseExactD (first :: rest) else tryParseExactN (first :: rest) := by
  have notParenthesis := digit_ne first '(' digit (by decide)
  have notBrace := digit_ne first '{' digit (by decide)
  rw [parseTrimmed, if_neg notParenthesis, if_neg notBrace]

theorem dash_digitsD (value : Nat) : '-' ∈ digitsD value := by
  simp [digitsD]

theorem fixed_cons (width value : Nat) : ∃ first rest,
    HexText.fixed (width + 1) value = first :: rest ∧ HexText.isDigit first = true := by
  have nonempty : HexText.fixed (width + 1) value ≠ [] := by simp [HexText.fixed]
  obtain ⟨first, rest, shape⟩ := List.exists_cons_of_ne_nil nonempty
  refine ⟨first, rest, shape, HexText.fixed_isDigit (width + 1) value first ?_⟩
  simp [shape]

theorem parseTrimmed_digitsN (value : Nat) (bound : value < 16 ^ 32) :
    parseTrimmed (digitsN value) = some value := by
  have noDash : '-' ∉ digitsN value := fun dash =>
    absurd (HexText.fixed_isDigit 32 value '-' dash) (by decide)
  have read := tryParseExactN_digitsN value bound
  obtain ⟨first, rest, shape, digit⟩ := fixed_cons 31 value
  rw [digitsN, shape] at noDash read ⊢
  rw [parseTrimmed_bare first rest digit, if_neg noDash, read]

theorem parseTrimmed_digitsD (value : Nat) (bound : value < 16 ^ 32) :
    parseTrimmed (digitsD value) = some value := by
  have dash := dash_digitsD value
  have read := tryParseExactD_digitsD value bound
  obtain ⟨first, rest, shape, digit⟩ := fixed_cons 7 (value / 16 ^ 24)
  have whole : ∃ rest, digitsD value = first :: rest := by
    rw [digitsD, shape]
    exact ⟨_, rfl⟩
  obtain ⟨others, same⟩ := whole
  rw [same] at dash read ⊢
  rw [parseTrimmed_bare first others digit, if_pos dash, read]

theorem parseTrimmed_digitsX (value : Nat) (bound : value < 16 ^ 32) :
    parseTrimmed (digitsX value) = some value := by
  have noDash : '-' ∉ digitsX value := by
    intro dash
    have spared := digitsX_letters value (fun letter => letter ≠ '-')
      (fun letter digit => digit_ne letter '-' digit (by decide)) (by decide)
    exact spared '-' dash rfl
  have read := tryParseExactX_digitsX value bound
  rw [digitsX] at noDash read ⊢
  rw [parseTrimmed, if_neg (by decide), if_pos rfl, if_neg noDash, read]

theorem parseTrimmed_guidText (format : GuidFormat) (guid : Guid) :
    parseTrimmed (guidText format guid) = some guid.toNat := by
  have bound : guid.toNat < 16 ^ 32 := guid.isLt
  cases format with
  | n => exact parseTrimmed_digitsN guid.toNat bound
  | d => exact parseTrimmed_digitsD guid.toNat bound
  | b =>
      have dash : '-' ∈ '{' :: (digitsD guid.toNat ++ ['}']) :=
        List.mem_cons_of_mem _ (List.mem_append_left _ (dash_digitsD guid.toNat))
      have read := tryParseEnclosed_digitsD guid.toNat bound '{' '}'
      rw [guidText, List.cons_append, parseTrimmed, if_neg (by decide), if_pos rfl, if_pos dash]
      exact read
  | p =>
      have read := tryParseEnclosed_digitsD guid.toNat bound '(' ')'
      rw [guidText, List.cons_append, parseTrimmed, if_pos rfl]
      exact read
  | x => exact parseTrimmed_digitsX guid.toNat bound

/-- An id is read back from each of its texts, in any letter case and with white space around. -/
theorem guidTryParse_guidText (format : GuidFormat) (guid : Guid) (text : String)
    (before after : List Char) (front : ∀ letter ∈ before, isWhiteSpace letter = true)
    (back : ∀ letter ∈ after, isWhiteSpace letter = true)
    (same : foldCase text = before ++ guidText format guid ++ after) :
    guidTryParse text = some guid := by
  have read : parseGuid text.toList = some guid.toNat := by
    rw [← parseGuid_toLower]
    change parseGuid (foldCase text) = _
    rw [same, parseGuid, trimSpace_around before _ after front back (guidText_solid format guid),
      parseTrimmed_guidText]
  rw [guidTryParse, read]
  simp

end RoundTrip

end ReferenceData
