import ReferenceData.GuidText

namespace ReferenceData

section LetterCase

theorem toLower_code (letter : Char) : letter.toLower.toNat =
    if 65 ≤ letter.toNat ∧ letter.toNat ≤ 90 then letter.toNat + 32 else letter.toNat := by
  have bounds : (letter.val ≥ 'A'.val ∧ letter.val ≤ 'Z'.val) ↔
      (65 ≤ letter.toNat ∧ letter.toNat ≤ 90) := by
    simp only [ge_iff_le, UInt32.le_iff_toNat_le]
    rfl
  by_cases upper : 65 ≤ letter.toNat ∧ letter.toNat ≤ 90
  · have lowered : letter.toLower = _ := dif_pos (bounds.mpr upper)
    rw [if_pos upper, lowered]
    change (letter.val + ('a'.val - 'A'.val)).toNat = letter.val.toNat + 32
    have code : letter.val.toNat ≤ 90 := upper.2
    rw [UInt32.toNat_add]
    have offset : ('a'.val - 'A'.val).toNat = 32 := rfl
    omega
  · rw [if_neg upper]
    exact congrArg Char.toNat (dif_neg (fun capital => upper (bounds.mp capital)))

theorem toLower_eq_iff (letter other : Char)
    (caseless : other.toNat < 65 ∨ (90 < other.toNat ∧ other.toNat < 97) ∨ 122 < other.toNat) :
    letter.toLower = other ↔ letter = other := by
  have code := toLower_code letter
  constructor
  · intro same
    rw [same] at code
    split at code
    · omega
    · exact Char.toNat_inj.mp code.symm
  · intro same
    rw [same] at code ⊢
    rw [if_neg (by omega)] at code
    exact Char.toNat_inj.mp code

theorem isWhiteSpace_toLower (letter : Char) : isWhiteSpace letter.toLower = isWhiteSpace letter := by
  have code := toLower_code letter
  simp only [isWhiteSpace, List.mem_cons, List.not_mem_nil, or_false, decide_eq_decide]
  split at code <;> omega

theorem digitValue_toLower (letter : Char) :
    HexText.digitValue letter.toLower = HexText.digitValue letter := by
  have code := toLower_code letter
  simp only [HexText.digitValue]
  split at code
  · rename_i capital
    have notDecimal : ¬ (48 ≤ letter.toNat ∧ letter.toNat ≤ 57) := by omega
    have notLower : ¬ (97 ≤ letter.toNat ∧ letter.toNat ≤ 102) := by omega
    rw [code, if_neg notDecimal, if_neg notLower, if_neg (by omega)]
    by_cases upper : 65 ≤ letter.toNat ∧ letter.toNat ≤ 70
    · rw [if_pos upper, if_pos (by omega)]
      congr 1
    · rw [if_neg upper, if_neg (by omega), if_neg (by omega)]
  · rw [code]

theorem readOnto_toLower (value : Nat) (text : List Char) :
    HexText.readOnto value (text.map Char.toLower) = HexText.readOnto value text := by
  induction text generalizing value with
  | nil => rfl
  | cons letter text ih =>
      rw [List.map_cons, HexText.readOnto, HexText.readOnto, digitValue_toLower]
      cases HexText.digitValue letter with
      | none => rfl
      | some digit => exact ih _

theorem getElem_toLower (text : List Char) (index : Nat) (other : Char)
    (caseless : other.toNat < 65 ∨ (90 < other.toNat ∧ other.toNat < 97) ∨ 122 < other.toNat) :
    (text.map Char.toLower)[index]? = some other ↔ text[index]? = some other := by
  rw [List.getElem?_map]
  cases text[index]? with
  | none => simp
  | some letter => simp [toLower_eq_iff letter other caseless]

theorem toLower_x (letter : Char) : (letter.toLower = 'x' ∨ letter.toLower = 'X') ↔
    (letter = 'x' ∨ letter = 'X') := by
  have code := toLower_code letter
  have x : ('x').toNat = 120 := rfl
  have capitalX : ('X').toNat = 88 := rfl
  simp only [← Char.toNat_inj, code, x, capitalX]
  split <;> omega

theorem isHexMark_toLower (text : List Char) :
    isHexMark (text.map Char.toLower) = isHexMark text := by
  have first := getElem_toLower text 0 '0' (by decide)
  have second : ((text.map Char.toLower)[1]? = some 'x' ∨ (text.map Char.toLower)[1]? = some 'X') ↔
      (text[1]? = some 'x' ∨ text[1]? = some 'X') := by
    rw [List.getElem?_map]
    cases text[1]? with
    | none => simp
    | some letter => simpa using toLower_x letter
  rw [Bool.eq_iff_iff]
  simp only [isHexMark, Bool.and_eq_true, Bool.or_eq_true, beq_iff_eq, first, second]

theorem dropSign_toLower (text : List Char) :
    dropSign (text.map Char.toLower) = (dropSign text).map Char.toLower := by
  have first := getElem_toLower text 0 '+' (by decide)
  simp only [dropSign, first]
  split
  · rw [List.map_drop]
  · rfl

theorem tryParseHex_toLower (text : List Char) :
    tryParseHex (text.map Char.toLower) = tryParseHex text := by
  rw [tryParseHex, dropSign_toLower, dropHexMark, isHexMark_toLower, tryParseHex, dropHexMark]
  split
  · rw [← List.map_drop, readOnto_toLower]
  · rw [readOnto_toLower]

theorem slice_toLower (text : List Char) (start length : Nat) :
    slice (text.map Char.toLower) start length = (slice text start length).map Char.toLower := by
  rw [slice, slice, ← List.map_drop, ← List.map_take]

theorem tryParseExactN_toLower (text : List Char) :
    tryParseExactN (text.map Char.toLower) = tryParseExactN text := by
  simp only [tryParseExactN, List.length_map, readOnto_toLower]

theorem tryParseExactD_toLower (text : List Char) :
    tryParseExactD (text.map Char.toLower) = tryParseExactD text := by
  have dash := fun index => getElem_toLower text index '-' (by decide)
  simp only [tryParseExactD, List.length_map, dash, slice_toLower, tryParseHex_toLower,
    readOnto_toLower]

theorem tryParseEnclosed_toLower (opening closing : Char) (text : List Char)
    (opens : 122 < opening.toNat ∨ opening.toNat < 65)
    (closes : 122 < closing.toNat ∨ closing.toNat < 65) :
    tryParseEnclosed opening closing (text.map Char.toLower) =
      tryParseEnclosed opening closing text := by
  simp only [tryParseEnclosed, List.length_map, getElem_toLower text 0 opening (by omega),
    getElem_toLower text 37 closing (by omega), slice_toLower, tryParseExactD_toLower]

theorem bne_toLower (ending : Char) (closes : 122 < ending.toNat ∨ ending.toNat < 65) :
    (fun letter => letter != ending) ∘ Char.toLower = fun letter => letter != ending := by
  funext letter
  have apart := toLower_eq_iff letter ending (by omega)
  simp only [Function.comp_apply, bne, Bool.beq_eq_decide_eq, apart]

theorem takeComponent_toLower (ending : Char) (closes : 122 < ending.toNat ∨ ending.toNat < 65)
    (limit : Nat) (text : List Char) :
    takeComponent ending limit (text.map Char.toLower) =
      (takeComponent ending limit text).map (fun taken => (taken.1, taken.2.map Char.toLower)) := by
  rw [takeComponent, takeComponent, isHexMark_toLower, ← List.map_drop, List.takeWhile_map,
    List.dropWhile_map, bne_toLower ending closes]
  split
  · simp only [tryParseHex_toLower, List.isEmpty_map]
    cases (text.drop 2).dropWhile (fun letter => letter != ending) with
    | nil => rfl
    | cons stop rest =>
        simp only [List.map_cons]
        split
        · rfl
        · cases tryParseHex ((text.drop 2).takeWhile (fun letter => letter != ending)) with
          | none => rfl
          | some value =>
              simp only
              split <;> rfl
  · rfl

theorem takeBytes_toLower (endings : List Char)
    (closes : ∀ ending ∈ endings, 122 < ending.toNat ∨ ending.toNat < 65) (value : Nat)
    (text : List Char) :
    takeBytes endings value (text.map Char.toLower) =
      (takeBytes endings value text).map (fun taken => (taken.1, taken.2.map Char.toLower)) := by
  induction endings generalizing value text with
  | nil => rfl
  | cons ending endings ih =>
      rw [takeBytes, takeBytes, takeComponent_toLower ending (closes ending List.mem_cons_self)]
      cases takeComponent ending (2 ^ 8) text with
      | none => rfl
      | some taken =>
          exact ih (fun other member => closes other (List.mem_cons_of_mem _ member)) _ _

theorem takeTail_toLower (text : List Char) : takeTail (text.map Char.toLower) = takeTail text := by
  have opening := getElem_toLower text 0 '{' (by decide)
  have closing : ∀ rest : List Char, rest.map Char.toLower = ['}'] ↔ rest = ['}'] := by
    intro rest
    rw [List.map_eq_singleton_iff]
    simp [toLower_eq_iff _ '}' (by decide)]
  simp only [takeTail, opening, ← List.map_drop, takeBytes_toLower byteEndings
    (byteEndings_keep _ (by decide) (by decide))]
  cases takeBytes byteEndings 0 (text.drop 1) with
  | none => rfl
  | some taken => simp only [Option.map_some, closing]

theorem tryParseExactX_toLower (text : List Char) :
    tryParseExactX (text.map Char.toLower) = tryParseExactX text := by
  have white : (fun letter => !isWhiteSpace letter) ∘ Char.toLower =
      fun letter => !isWhiteSpace letter := by
    funext letter
    rw [Function.comp_apply, isWhiteSpace_toLower]
  have opening := getElem_toLower (text.filter (fun letter => !isWhiteSpace letter)) 0 '{' (by decide)
  have component := takeComponent_toLower ',' (by decide) (2 ^ 32)
  simp only [tryParseExactX, List.filter_map, white, opening, ← List.map_drop, component,
    Option.bind_eq_bind, Option.bind_map, Function.comp_def, takeTail_toLower]

theorem parseTrimmed_toLower (text : List Char) :
    parseTrimmed (text.map Char.toLower) = parseTrimmed text := by
  have dash : '-' ∈ text.map Char.toLower ↔ '-' ∈ text := by
    simp [List.mem_map, toLower_eq_iff _ '-' (by decide)]
  cases text with
  | nil => rfl
  | cons first rest =>
      simp only [List.map_cons] at dash
      simp only [parseTrimmed, List.map_cons, dash, toLower_eq_iff first '(' (by decide),
        toLower_eq_iff first '{' (by decide)]
      simp only [← List.map_cons, tryParseExactN_toLower, tryParseExactD_toLower,
        tryParseExactX_toLower, tryParseExactB, tryParseExactP,
        tryParseEnclosed_toLower '{' '}' _ (by decide) (by decide),
        tryParseEnclosed_toLower '(' ')' _ (by decide) (by decide)]

theorem trimSpace_toLower (text : List Char) :
    trimSpace (text.map Char.toLower) = (trimSpace text).map Char.toLower := by
  have white : isWhiteSpace ∘ Char.toLower = isWhiteSpace := funext isWhiteSpace_toLower
  simp only [trimSpace, List.rdropWhile, List.dropWhile_map, white, ← List.map_reverse]

theorem parseGuid_toLower (text : List Char) : parseGuid (text.map Char.toLower) = parseGuid text := by
  rw [parseGuid, trimSpace_toLower, parseTrimmed_toLower, parseGuid]

end LetterCase

end ReferenceData
