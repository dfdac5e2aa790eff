import ReferenceData.GuidText

namespace ReferenceData

def isGuidLetter (letter : Char) : Bool :=
  HexText.isDigit letter || letter ∈ ['x', 'X', '+', '-', ',', '{', '}', '(', ')']

section Shape

theorem isGuidLetter_digit (letter : Char) (digit : HexText.isDigit letter = true) :
    isGuidLetter letter = true := by
  rw [isGuidLetter, digit]
  rfl

theorem isHexMark_shape (text : List Char) (marked : isHexMark text = true) :
    ∃ mark rest, text = '0' :: mark :: rest ∧ (mark = 'x' ∨ mark = 'X') := by
  simp only [isHexMark, Bool.and_eq_true, Bool.or_eq_true, beq_iff_eq] at marked
  obtain ⟨zero, mark⟩ := marked
  rcases text with _ | ⟨first, _ | ⟨second, rest⟩⟩
  · cases zero
  · rcases mark with found | found <;> cases found
  · cases zero
    exact ⟨second, rest, rfl, by simpa using mark⟩

theorem tryParseHex_letters (text : List Char) (value : Nat) (read : tryParseHex text = some value) :
    ∀ letter ∈ text, isGuidLetter letter = true := by
  have digits := HexText.readOnto_isDigit 0 value _ read
  have unsigned : ∀ letter ∈ dropSign text, isGuidLetter letter = true := by
    intro letter member
    cases marked : isHexMark (dropSign text) with
    | false =>
        rw [dropHexMark, marked] at digits
        exact isGuidLetter_digit letter (digits letter member)
    | true =>
        obtain ⟨mark, rest, shape, either⟩ := isHexMark_shape _ marked
        rw [dropHexMark, marked, shape] at digits
        rw [shape] at member
        simp only [List.mem_cons] at member
        rcases member with rfl | rfl | inside
        · decide
        · rcases either with rfl | rfl <;> decide
        · exact isGuidLetter_digit letter (digits letter inside)
  unfold dropSign at unsigned
  split at unsigned
  · rename_i signed
    rcases text with _ | ⟨first, rest⟩
    · cases signed
    · cases signed
      exact List.forall_mem_cons.mpr ⟨by decide, unsigned⟩
  · exact unsigned

theorem mem_cut (text : List Char) (start length : Nat) (letter : Char)
    (member : letter ∈ text.drop start) :
    letter ∈ slice text start length ∨ letter ∈ text.drop (start + length) := by
  rw [← List.take_append_drop length (text.drop start), List.drop_drop] at member
  exact List.mem_append.mp member

theorem mem_next (text : List Char) (place : Nat) (letter : Char)
    (member : letter ∈ text.drop place) :
    text[place]? = some letter ∨ letter ∈ text.drop (place + 1) := by
  rcases mem_cut text place 1 letter member with first | rest
  · rw [slice, List.take_one, List.head?_drop, Option.mem_toList] at first
    exact Or.inl first
  · exact Or.inr rest

theorem mem_past (text : List Char) (length : Nat) (letter : Char) (ends : text.length = length)
    (member : letter ∈ text.drop length) : False := by
  rw [← ends, List.drop_length] at member
  cases member

theorem isGuidLetter_at (text : List Char) (place : Nat) (letter held : Char)
    (kept : text[place]? = some held) (here : text[place]? = some letter)
    (known : isGuidLetter held = true) : isGuidLetter letter = true := by
  rw [kept] at here
  cases here
  exact known

theorem tryParseExactD_letters (text : List Char) (value : Nat)
    (read : tryParseExactD text = some value) :
    text.length = 36 ∧ ∀ letter ∈ text, isGuidLetter letter = true := by
  unfold tryParseExactD at read
  split at read
  · rename_i shape
    obtain ⟨length, first, second, third, fourth⟩ := shape
    refine ⟨length, ?_⟩
    obtain ⟨a, readA, read⟩ := Option.bind_eq_some_iff.mp read
    obtain ⟨b, readB, read⟩ := Option.bind_eq_some_iff.mp read
    obtain ⟨c, readC, read⟩ := Option.bind_eq_some_iff.mp read
    obtain ⟨de, readDE, read⟩ := Option.bind_eq_some_iff.mp read
    obtain ⟨fg, readFG, read⟩ := Option.bind_eq_some_iff.mp read
    obtain ⟨hijk, readHIJK, _⟩ := Option.bind_eq_some_iff.mp read
    intro letter member
    rcases mem_cut text 0 8 letter member with inA | member
    · exact tryParseHex_letters _ a readA letter inA
    rcases mem_next text 8 letter member with here | member
    · exact isGuidLetter_at text 8 letter '-' first here (by decide)
    rcases mem_cut text 9 4 letter member with inB | member
    · exact tryParseHex_letters _ b readB letter inB
    rcases mem_next text 13 letter member with here | member
    · exact isGuidLetter_at text 13 letter '-' second here (by decide)
    rcases mem_cut text 14 4 letter member with inC | member
    · exact tryParseHex_letters _ c readC letter inC
    rcases mem_next text 18 letter member with here | member
    · exact isGuidLetter_at text 18 letter '-' third here (by decide)
    rcases mem_cut text 19 4 letter member with inDE | member
    · exact tryParseHex_letters _ de readDE letter inDE
    rcases mem_next text 23 letter member with here | member
    · exact isGuidLetter_at text 23 letter '-' fourth here (by decide)
    rcases mem_cut text 24 4 letter member with inFG | member
    · exact tryParseHex_letters _ fg readFG letter inFG
    rcases mem_cut text 28 8 letter member with inHIJK | member
    · exact isGuidLetter_digit letter (HexText.readOnto_isDigit 0 hijk _ readHIJK letter inHIJK)
    · exact absurd member (mem_past text 36 letter length)
  · cases read

theorem tryParseEnclosed_letters (opening closing : Char) (text : List Char) (value : Nat)
    (opens : isGuidLetter opening = true) (closes : isGuidLetter closing = true)
    (read : tryParseEnclosed opening closing text = some value) :
    text.length = 38 ∧ ∀ letter ∈ text, isGuidLetter letter = true := by
  unfold tryParseEnclosed at read
  split at read
  · rename_i shape
    obtain ⟨length, first, last⟩ := shape
    refine ⟨length, ?_⟩
    intro letter member
    rcases mem_next text 0 letter member with here | member
    · exact isGuidLetter_at text 0 letter opening first here opens
    rcases mem_cut text 1 36 letter member with inside | member
    · exact (tryParseExactD_letters _ value read).2 letter inside
    rcases mem_next text 37 letter member with here | member
    · exact isGuidLetter_at text 37 letter closing last here closes
    · exact absurd member (mem_past text 38 letter length)
  · cases read

theorem takeWhile_ending (ending stop : Char) (text after : List Char)
    (shape : text.dropWhile (fun letter => letter != ending) = stop :: after) :
    text.takeWhile (fun letter => letter != ending) ++ ending :: after = text := by
  have whole := List.takeWhile_append_dropWhile (p := fun letter => letter != ending) (l := text)
  have nonempty : text.dropWhile (fun letter => letter != ending) ≠ [] := by simp [shape]
  have stops := List.head_dropWhile_not (fun letter => letter != ending) nonempty
  simp only [shape, List.head_cons, bne_eq_false_iff_eq] at stops
  rw [← stops, ← shape, stops]
  exact whole

theorem takeComponent_shape (ending : Char) (limit : Nat) (text : List Char)
    (taken : Nat × List Char) (read : takeComponent ending limit text = some taken) :
    ∃ mark number, text = '0' :: mark :: number ++ ending :: taken.2 ∧ number ≠ [] ∧
      ∀ letter ∈ '0' :: mark :: number, isGuidLetter letter = true := by
  unfold takeComponent at read
  split at read
  · rename_i marked
    obtain ⟨mark, rest, rfl, either⟩ := isHexMark_shape text marked
    simp only [List.drop_succ_cons, List.drop_zero] at read
    split at read
    · cases read
    · rename_i stop after shape
      have whole := takeWhile_ending ending stop rest after shape
      split at read
      · cases read
      · rename_i nonempty
        split at read
        · cases read
        · rename_i value parsed
          split at read
          · cases read
            refine ⟨mark, rest.takeWhile (fun letter => letter != ending), ?_, ?_, ?_⟩
            · rw [List.cons_append, List.cons_append, whole]
            · intro empty
              rw [empty] at nonempty
              exact nonempty rfl
            · have letters := tryParseHex_letters _ value parsed
              have markLetter : isGuidLetter mark = true := by
                rcases either with rfl | rfl <;> decide
              exact List.forall_mem_cons.mpr ⟨by decide,
                List.forall_mem_cons.mpr ⟨markLetter, letters⟩⟩
          · cases read
  · cases read

/-- `used` comes off the front of `text`, and is written as ids are. -/
structure Used (text used rest : List Char) (length : Nat) : Prop where
  parts : text = used ++ rest
  long : length ≤ used.length
  letters : ∀ letter ∈ used, isGuidLetter letter = true

theorem used_append (text used middle further rest : List Char) (length more : Nat)
    (first : Used text used middle length) (second : Used middle further rest more) :
    Used text (used ++ further) rest (length + more) where
  parts := by rw [first.parts, second.parts, List.append_assoc]
  long := by
    have left := first.long
    have right := second.long
    rw [List.length_append]
    omega
  letters := List.forall_mem_append.mpr ⟨first.letters, second.letters⟩

theorem takeComponent_used (ending : Char) (limit : Nat) (text : List Char)
    (taken : Nat × List Char) (ends : isGuidLetter ending = true)
    (read : takeComponent ending limit text = some taken) : ∃ used, Used text used taken.2 4 := by
  obtain ⟨mark, number, shape, nonempty, letters⟩ := takeComponent_shape ending limit text taken read
  have some : 0 < number.length := List.length_pos_iff.mpr nonempty
  refine ⟨'0' :: mark :: number ++ [ending], ?_, ?_, ?_⟩
  · rw [shape]
    simp
  · simp only [List.length_append, List.length_cons, List.length_nil]
    omega
  · exact List.forall_mem_append.mpr ⟨letters, by simpa using ends⟩

theorem takeBytes_used (endings : List Char)
    (ends : ∀ ending ∈ endings, isGuidLetter ending = true) (value : Nat) (text : List Char)
    (taken : Nat × List Char) (read : takeBytes endings value text = some taken) :
    ∃ used, Used text used taken.2 (4 * endings.length) := by
  induction endings generalizing value text with
  | nil =>
      cases read
      exact ⟨[], rfl, by simp, by simp⟩
  | cons ending endings ih =>
      rw [takeBytes] at read
      split at read
      · cases read
      · rename_i byte rest found
        obtain ⟨front, first⟩ := takeComponent_used ending (2 ^ 8) text (byte, rest)
          (ends ending List.mem_cons_self) found
        obtain ⟨back, others⟩ := ih (fun other member => ends other (List.mem_cons_of_mem _ member))
          _ rest read
        have whole := used_append text front rest back taken.2 _ _ first others
        have count : 4 * (ending :: endings).length = 4 + 4 * endings.length := by
          rw [List.length_cons]
          omega
        exact ⟨front ++ back, count ▸ whole⟩

theorem brace_used (text : List Char) (opens : text[0]? = some '{') :
    Used text ['{'] (text.drop 1) 1 := by
  rcases text with _ | ⟨first, rest⟩
  · cases opens
  · cases opens
    exact ⟨rfl, by simp, by simpa using (show isGuidLetter '{' = true by decide)⟩

theorem takeTail_used (text : List Char) (bytes : Nat) (read : takeTail text = some bytes) :
    Used text text [] 34 := by
  unfold takeTail at read
  split at read
  · rename_i opens
    split at read
    · cases read
    · rename_i value rest found
      split at read
      · rename_i closes
        obtain ⟨inner, middle⟩ := takeBytes_used byteEndings
          (byteEndings_keep _ (by decide) (by decide)) 0 _ _ found
        have closing : Used ['}'] ['}'] [] 1 :=
          ⟨rfl, by simp, by simpa using (show isGuidLetter '}' = true by decide)⟩
        rw [closes] at middle
        have whole := used_append text _ _ _ _ _ _ (used_append text _ _ _ _ _ _
          (brace_used text opens) middle) closing
        have same := whole.parts
        rw [List.append_nil] at same
        rw [← same] at whole
        exact whole
      · cases read
  · cases read

theorem tryParseExactX_letters (text : List Char) (value : Nat)
    (read : tryParseExactX text = some value) : 32 ≤ text.length ∧
      ∀ letter ∈ text, isGuidLetter letter = true ∨ isWhiteSpace letter = true := by
  have comma : isGuidLetter ',' = true := by decide
  simp only [tryParseExactX] at read
  split at read
  · rename_i opens
    obtain ⟨a, readA, read⟩ := Option.bind_eq_some_iff.mp read
    obtain ⟨b, readB, read⟩ := Option.bind_eq_some_iff.mp read
    obtain ⟨c, readC, read⟩ := Option.bind_eq_some_iff.mp read
    obtain ⟨bytes, readBytes, _⟩ := Option.bind_eq_some_iff.mp read
    obtain ⟨usedA, first⟩ := takeComponent_used ',' _ _ a comma readA
    obtain ⟨usedB, second⟩ := takeComponent_used ',' _ _ b comma readB
    obtain ⟨usedC, third⟩ := takeComponent_used ',' _ _ c comma readC
    have whole := used_append _ _ _ _ _ _ _ (brace_used _ opens) (used_append _ _ _ _ _ _ _ first
      (used_append _ _ _ _ _ _ _ second (used_append _ _ _ _ _ _ _ third
        (takeTail_used c.2 bytes readBytes))))
    have same := whole.parts
    rw [List.append_nil] at same
    rw [← same] at whole
    constructor
    · have shorter := List.length_filter_le (fun letter => !isWhiteSpace letter) text
      have long := whole.long
      omega
    · intro letter member
      cases white : isWhiteSpace letter with
      | true => exact Or.inr rfl
      | false => exact Or.inl (whole.letters letter (List.mem_filter.mpr ⟨member, by simp [white]⟩))
  · cases read

theorem parseTrimmed_letters (text : List Char) (value : Nat)
    (read : parseTrimmed text = some value) : 32 ≤ text.length ∧
      ∀ letter ∈ text, isGuidLetter letter = true ∨ isWhiteSpace letter = true := by
  unfold parseTrimmed at read
  split at read
  · cases read
  · rename_i first rest
    split at read
    · obtain ⟨length, letters⟩ := tryParseEnclosed_letters '(' ')' _ value (by decide) (by decide) read
      exact ⟨by omega, fun letter member => Or.inl (letters letter member)⟩
    · split at read
      · split at read
        · obtain ⟨length, letters⟩ :=
            tryParseEnclosed_letters '{' '}' _ value (by decide) (by decide) read
          exact ⟨by omega, fun letter member => Or.inl (letters letter member)⟩
        · exact tryParseExactX_letters _ value read
      · split at read
        · obtain ⟨length, letters⟩ := tryParseExactD_letters _ value read
          exact ⟨by omega, fun letter member => Or.inl (letters letter member)⟩
        · unfold tryParseExactN at read
          split at read
          · rename_i length
            refine ⟨by omega, fun letter member => Or.inl (isGuidLetter_digit letter ?_)⟩
            exact HexText.readOnto_isDigit 0 value _ read letter member
          · cases read

theorem mem_trimSpace (text : List Char) (letter : Char) (member : letter ∈ text) :
    isWhiteSpace letter = true ∨ letter ∈ trimSpace text := by
  have front := List.takeWhile_append_dropWhile (p := isWhiteSpace) (l := text)
  rw [← front] at member
  rcases List.mem_append.mp member with skipped | kept
  · exact Or.inl (List.mem_takeWhile_imp skipped)
  · have back := List.takeWhile_append_dropWhile (p := isWhiteSpace)
      (l := (text.dropWhile isWhiteSpace).reverse)
    have reversed := List.mem_reverse.mpr kept
    rw [← back] at reversed
    rcases List.mem_append.mp reversed with skipped | rest
    · exact Or.inl (List.mem_takeWhile_imp skipped)
    · exact Or.inr (List.mem_reverse.mpr rest)

/-- What is taken for an id is long enough and holds no other letter. -/
theorem guidTryParse_letters (text : String) (guid : Guid) (read : guidTryParse text = some guid) :
    32 ≤ (trimSpace text.toList).length ∧
      ∀ letter ∈ text.toList, isGuidLetter letter = true ∨ isWhiteSpace letter = true := by
  obtain ⟨value, parsed, _⟩ := Option.map_eq_some_iff.mp read
  obtain ⟨long, letters⟩ := parseTrimmed_letters _ value parsed
  refine ⟨long, ?_⟩
  intro letter member
  rcases mem_trimSpace text.toList letter member with white | inside
  · exact Or.inr white
  · exact letters letter inside

end Shape

end ReferenceData
