import Nominal.Module.Reference

/-!
# Array suffixes of composed names

The two characters of the array suffix `[]` take no part in composition: neither is a part of any
other character, and neither is composed with what stands next to it.  So the composed form of a
name ends with the suffix only if the name itself does.
-/

namespace Nominal

namespace Text

/-- The code of a character of the array suffix. -/
def isBracket (code : Nat) : Bool :=
  code == 0x5B || code == 0x5D

theorem lt_of_isBracket {code : Nat} (bracket : isBracket code = true) : code < 0x300 := by
  simp only [isBracket, Bool.or_eq_true, beq_iff_eq] at bracket
  omega

/-! ## The character data -/

/-- A row of the decomposition data says nothing about brackets. -/
def sparesBrackets (row : Nat × List Nat) : Bool :=
  !isBracket row.1 && !row.2.isEmpty && row.2.all (!isBracket ·)

theorem fields_spareBrackets {check : List Char → Bool} (characters : List Char)
    (passed : (fieldsBetween ' ' characters).all check = true) :
    (fieldsBetween ' ' (String.ofList characters).toList).all check = true := by
  rw [String.toList_ofList]
  exact passed

set_option maxRecDepth 4000 in
/-- Every row is evaluated, on the list of its characters. -/
theorem decompositionRows_spareBrackets : ∀ row ∈ decompositionRows,
    (fieldsBetween ' ' row.toList).all
      (fun field => (decompositionRow? field).all sparesBrackets) = true := by
  unfold decompositionRows
  repeat' (refine List.forall_mem_cons.mpr ⟨fields_spareBrackets _ ?_, ?_⟩; decide +kernel)
  exact List.forall_mem_nil _

theorem continuationRows_spareBrackets : ∀ row ∈ continuationRows,
    (fieldsBetween ' ' row.toList).all
      (fun field => (hexNumber? field).all (!isBracket ·)) = true := by
  unfold continuationRows
  repeat' (refine List.forall_mem_cons.mpr ⟨fields_spareBrackets _ ?_, ?_⟩; decide +kernel)
  exact List.forall_mem_nil _

theorem sparesBrackets_of_mem {row : Nat × List Nat} (listed : row ∈ decompositionList) :
    sparesBrackets row = true := by
  obtain ⟨field, inRows, read⟩ := List.mem_filterMap.mp listed
  obtain ⟨text, isRow, inText⟩ := List.mem_flatMap.mp inRows
  have spared := List.all_eq_true.mp (decompositionRows_spareBrackets text isRow) field inText
  rw [read] at spared
  exact spared

theorem not_isBracket_of_mem_continuations {code : Nat} (listed : code ∈ continuations) :
    isBracket code = false := by
  obtain ⟨field, inRows, read⟩ := List.mem_filterMap.mp listed
  obtain ⟨text, isRow, inText⟩ := List.mem_flatMap.mp inRows
  have spared := List.all_eq_true.mp (continuationRows_spareBrackets text isRow) field inText
  rw [read] at spared
  simpa using spared

/-- What a table holds was put into it. -/
theorem mem_of_getElem?_insertMany {Key Value : Type} [BEq Key] [LawfulBEq Key] [Hashable Key]
    (entries : List (Key × Value)) {table : Std.HashMap Key Value} {key : Key} {value : Value}
    (found : (table.insertMany entries)[key]? = some value) :
    table[key]? = some value ∨ (key, value) ∈ entries := by
  induction entries generalizing table with
  | nil => exact .inl (by simpa using found)
  | cons entry rest ih =>
      rw [Std.HashMap.insertMany_cons] at found
      rcases ih found with old | later
      · rw [Std.HashMap.getElem?_insert] at old
        split at old
        next same =>
          cases old
          obtain rfl := eq_of_beq same
          exact .inr List.mem_cons_self
        next => exact .inl old
      · exact .inr (List.mem_cons_of_mem entry later)

theorem mem_of_getElem?_ofList {Key Value : Type} [BEq Key] [LawfulBEq Key] [Hashable Key]
    {entries : List (Key × Value)} {key : Key} {value : Value}
    (found : (Std.HashMap.ofList entries)[key]? = some value) : (key, value) ∈ entries := by
  rw [Std.HashMap.ofList_eq_insertMany_empty] at found
  rcases mem_of_getElem?_insertMany entries found with impossible | listed
  · simp at impossible
  · exact listed

theorem sparesBrackets_of_decompositionTable {code : Nat} {parts : List Nat}
    (found : decompositionTable[code]? = some parts) : sparesBrackets (code, parts) = true :=
  sparesBrackets_of_mem (mem_of_getElem?_ofList found)

theorem sparesBrackets_of_compositionList {entry : (Nat × Nat) × Nat}
    (listed : entry ∈ compositionList) :
    sparesBrackets (entry.2, [entry.1.1, entry.1.2]) = true := by
  obtain ⟨⟨code, parts⟩, row, kept⟩ := List.mem_filterMap.mp listed
  dsimp only at kept
  split at kept
  next first second =>
    split at kept
    · cases kept
    · cases kept
      exact sparesBrackets_of_mem row
  next => cases kept

theorem not_isBracket_of_compositionTable {key : Nat × Nat} {code : Nat}
    (found : compositionTable[key]? = some code) : isBracket code = false := by
  obtain ⟨entry, listed, same⟩ := List.mem_map.mp (mem_of_getElem?_ofList found)
  have spared := sparesBrackets_of_compositionList listed
  cases same
  simp only [sparesBrackets, Bool.and_eq_true, Bool.not_eq_true'] at spared
  exact spared.1.1

theorem not_isBracket_of_hangulComposite? {first second code : Nat}
    (composed : hangulComposite? first second = some code) : isBracket code = false := by
  unfold hangulComposite? at composed
  rw [Bool.eq_false_iff]
  intro bracket
  have small := lt_of_isBracket bracket
  split at composed
  next letters =>
    have equal := Option.some.inj composed
    omega
  · split at composed
    next syllable =>
      have equal := Option.some.inj composed
      omega
    next => cases composed

theorem combiningClass_of_isBracket {code : Nat} (bracket : isBracket code = true) :
    combiningClass code = 0 := by
  rw [combiningClass, if_pos (lt_of_isBracket bracket)]

theorem not_continuesCluster_of_isBracket {code : Nat} (bracket : isBracket code = true) :
    continuesCluster code = false := by
  have small := lt_of_isBracket bracket
  have noSecond : secondParts.contains code = false := by
    rw [Bool.eq_false_iff]
    intro second
    rw [secondParts, Std.HashSet.contains_ofList, List.contains_iff_mem] at second
    obtain ⟨entry, listed, rfl⟩ := List.mem_map.mp second
    have spared := sparesBrackets_of_compositionList listed
    simp [sparesBrackets, bracket] at spared
  have noContinuation : code ∉ continuations := by
    intro listed
    have spared := not_isBracket_of_mem_continuations listed
    rw [bracket] at spared
    cases spared
  have noHangul : ¬ (0x1161 ≤ code) ∧ ¬ (0x11A7 < code) := by omega
  simp [continuesCluster, composesBackward, combiningClass_of_isBracket bracket, noSecond,
    noContinuation, noHangul]

/-! ## Decomposition and order -/

/-- The parts of a syllable are letters. -/
theorem le_of_hangulParts? {code : Nat} {parts : List Nat}
    (syllable : hangulParts? code = some parts) :
    0x300 ≤ code ∧ parts ≠ [] ∧ ∀ part ∈ parts, 0x300 ≤ part := by
  unfold hangulParts? at syllable
  split at syllable
  next range =>
    have equal := Option.some.inj syllable
    rw [← equal]
    refine ⟨by omega, ?_, ?_⟩
    · split <;> exact List.cons_ne_nil _ _
    · intro part listed
      split at listed
      all_goals
        simp only [List.mem_cons, List.not_mem_nil, or_false] at listed
        omega
  next => cases syllable

theorem decomposeCode_succ (steps code : Nat) : decomposeCode (steps + 1) code =
    (hangulParts? code).getD
      ((decompositionTable[code]?.map fun parts => parts.flatMap (decomposeCode steps)).getD
        [code]) :=
  rfl

theorem decomposeCode_ne_nil (steps code : Nat) : decomposeCode steps code ≠ [] := by
  induction steps generalizing code with
  | zero => exact List.cons_ne_nil _ _
  | succ steps ih =>
      rw [decomposeCode_succ]
      cases syllable : hangulParts? code with
      | some parts => exact (le_of_hangulParts? syllable).2.1
      | none =>
          cases found : decompositionTable[code]? with
          | none => exact List.cons_ne_nil _ _
          | some parts =>
              have spared := sparesBrackets_of_decompositionTable found
              cases parts with
              | nil => simp [sparesBrackets] at spared
              | cons first rest =>
                  rw [Option.getD_none, Option.map_some, Option.getD_some, List.flatMap_cons]
                  exact List.append_ne_nil_of_left_ne_nil (ih first) _

theorem hangulParts?_of_isBracket {code : Nat} (bracket : isBracket code = true) :
    hangulParts? code = none := by
  cases syllable : hangulParts? code with
  | none => rfl
  | some parts =>
      have large := (le_of_hangulParts? syllable).1
      have small := lt_of_isBracket bracket
      omega

/-- A bracket is its own decomposition. -/
theorem decomposeCode_of_isBracket (steps : Nat) {code : Nat} (bracket : isBracket code = true) :
    decomposeCode steps code = [code] := by
  cases steps with
  | zero => rfl
  | succ steps =>
      rw [decomposeCode_succ, hangulParts?_of_isBracket bracket]
      cases found : decompositionTable[code]? with
      | none => rfl
      | some parts =>
          have spared := sparesBrackets_of_decompositionTable found
          simp [sparesBrackets, bracket] at spared

/-- No other character has a bracket in its decomposition. -/
theorem not_isBracket_of_mem_decomposeCode {steps code part : Nat}
    (plain : isBracket code = false) (listed : part ∈ decomposeCode steps code) :
    isBracket part = false := by
  induction steps generalizing code with
  | zero =>
      rw [decomposeCode] at listed
      rw [List.mem_singleton.mp listed]
      exact plain
  | succ steps ih =>
      rw [decomposeCode_succ] at listed
      cases syllable : hangulParts? code with
      | some parts =>
          rw [syllable, Option.getD_some] at listed
          rw [Bool.eq_false_iff]
          intro bracket
          have large := (le_of_hangulParts? syllable).2.2 part listed
          have small := lt_of_isBracket bracket
          omega
      | none =>
          rw [syllable, Option.getD_none] at listed
          cases found : decompositionTable[code]? with
          | none =>
              rw [found, Option.map_none, Option.getD_none] at listed
              rw [List.mem_singleton.mp listed]
              exact plain
          | some parts =>
              have spared := sparesBrackets_of_decompositionTable found
              simp only [sparesBrackets, Bool.and_eq_true, List.all_eq_true, Bool.not_eq_true']
                at spared
              rw [found, Option.map_some, Option.getD_some] at listed
              obtain ⟨first, isPart, inFirst⟩ := List.mem_flatMap.mp listed
              exact ih (spared.2 first isPart) inFirst

theorem mem_insertMark {mark code : Nat} {marks : List Nat} :
    code ∈ insertMark mark marks ↔ code = mark ∨ code ∈ marks := by
  induction marks with
  | nil => simp [insertMark]
  | cons other rest ih =>
      unfold insertMark
      split
      · rw [List.mem_cons, ih, List.mem_cons]
        exact or_left_comm
      · rw [List.mem_cons, List.mem_cons]

theorem mem_orderMarks_go {code : Nat} {marks codes : List Nat} :
    code ∈ orderMarks.go marks codes ↔ code ∈ marks ∨ code ∈ codes := by
  induction codes generalizing marks with
  | nil => simp [orderMarks.go]
  | cons next rest ih =>
      unfold orderMarks.go
      split
      · rw [List.mem_append, List.mem_cons, ih, List.mem_cons]
        simp
      · rw [ih, mem_insertMark, List.mem_cons, or_assoc, or_left_comm]

theorem orderMarks_eq_go (codes : List Nat) : orderMarks codes = orderMarks.go [] codes := by
  cases codes <;> rfl

theorem mem_orderMarks {code : Nat} {codes : List Nat} :
    code ∈ orderMarks codes ↔ code ∈ codes := by
  rw [orderMarks_eq_go, mem_orderMarks_go]
  simp

/-- A bracket stays at the start. -/
theorem orderMarks_of_isBracket {code : Nat} (bracket : isBracket code = true)
    (rest : List Nat) : orderMarks (code :: rest) = code :: orderMarks rest := by
  rw [orderMarks_eq_go, orderMarks.go, if_pos (combiningClass_of_isBracket bracket),
    orderMarks_eq_go]
  rfl

/-! ## Composition -/

namespace Composition

theorem last_retarget (composition : Composition) :
    composition.retarget.last = composition.last := by
  unfold retarget
  split
  · rfl
  next latest earlier after =>
    split
    · simp [last, after]
    · rfl

theorem after_retarget (composition : Composition) (still : composition.after = []) :
    composition.retarget = composition := by
  unfold retarget
  rw [still]

/-- The last character after something was added is not a bracket, unless a bracket was added or
was last before. -/
theorem not_isBracket_last_join {composite? : Nat → Nat → Option Nat}
    (composes : ∀ first second code, composite? first second = some code → isBracket code = false)
    {composition : Composition} {part : Part} (plain : isBracket part.code = false)
    (start : composition.after = [] ∨ isBracket composition.last.code = false) :
    isBracket (composition.join composite? part).last.code = false := by
  unfold join
  dsimp only
  split
  next code composed =>
    split at composed
    · cases composed
    · have kept := last_retarget composition
      unfold last at kept ⊢
      cases after : composition.retarget.after with
      | nil => exact composes _ _ _ composed
      | cons latest earlier =>
          rw [after] at kept
          rcases start with empty | spared
          · rw [after_retarget composition empty, empty] at after
            cases after
          · rw [last, ← kept] at spared
            exact spared
  next => exact plain

/-- The characters are composed to a text that does not end with a bracket, unless nothing follows
the bracket that the text starts with. -/
theorem not_isBracket_last_run {parts : List Part} (inHangul : Bool)
    (plain : ∀ part ∈ parts, isBracket part.code = false) {composition : Composition}
    (start : composition.after = [] ∧ parts ≠ [] ∨ isBracket composition.last.code = false) :
    isBracket (composition.run inHangul parts).last.code = false := by
  induction parts generalizing composition inHangul with
  | nil =>
      rcases start with ⟨-, nonempty⟩ | spared
      · exact absurd rfl nonempty
      · exact spared
  | cons part rest ih =>
      have here := plain part List.mem_cons_self
      have later := fun other listed => plain other (List.mem_cons_of_mem part listed)
      have joinable := start.imp_left And.left
      unfold run
      split
      · exact ih true later (.inr (not_isBracket_last_join
          (fun _ _ _ => not_isBracket_of_hangulComposite?) here joinable))
      · split
        · exact ih false later (.inr (not_isBracket_last_join
            (fun _ _ _ => not_isBracket_of_compositionTable) here joinable))
        · exact ih false later (.inr here)

theorem exists_toList (composition : Composition) :
    ∃ codes, composition.toList = codes ++ [composition.last.code] := by
  unfold toList last
  cases composition.after with
  | nil => exact ⟨_, by rw [List.nil_append, List.reverse_cons, List.map_append]; rfl⟩
  | cons latest earlier =>
      exact ⟨_, by rw [List.cons_append, List.reverse_cons, List.map_append]; rfl⟩

end Composition

theorem composeCluster_cons (code : Nat) (codes : List Nat) : composeCluster (code :: codes)
    = (Composition.run { target := ⟨code, combiningClass code⟩ } false
        (codes.map fun other => Part.mk other (combiningClass other))).toList :=
  rfl

theorem composeCluster_ne_nil {codes : List Nat} (nonempty : codes ≠ []) :
    composeCluster codes ≠ [] := by
  cases codes with
  | nil => exact absurd rfl nonempty
  | cons code rest =>
      obtain ⟨composed, equal⟩ := Composition.exists_toList
        (Composition.run { target := ⟨code, combiningClass code⟩ } false
          (rest.map fun other => Part.mk other (combiningClass other)))
      rw [composeCluster_cons, equal]
      exact List.append_ne_nil_of_right_ne_nil _ (List.cons_ne_nil _ _)

/-- A bracket at the end of what is composed is the only character that was there. -/
theorem eq_nil_of_composeCluster {code bracket : Nat} {rest composed : List Nat}
    (isBracket_bracket : isBracket bracket = true) (plain : ∀ other ∈ rest, isBracket other = false)
    (ends : composeCluster (code :: rest) = composed ++ [bracket]) :
    rest = [] ∧ isBracket code = true := by
  obtain ⟨before, equal⟩ := Composition.exists_toList
    (Composition.run { target := ⟨code, combiningClass code⟩ } false
      (rest.map fun other => Part.mk other (combiningClass other)))
  rw [composeCluster_cons, equal] at ends
  have last := (List.append_singleton_inj.mp ends).2
  have plainParts : ∀ part ∈ rest.map fun other => Part.mk other (combiningClass other),
      isBracket part.code = false := by
    intro part listed
    obtain ⟨other, inRest, rfl⟩ := List.mem_map.mp listed
    exact plain other inRest
  have spared := @Composition.not_isBracket_last_run _ false plainParts
    { target := ⟨code, combiningClass code⟩ }
  rw [last, isBracket_bracket] at spared
  constructor
  · cases rest with
    | nil => rfl
    | cons other others => cases spared (.inl ⟨rfl, List.cons_ne_nil _ _⟩)
  · cases start : isBracket code with
    | true => rfl
    | false => cases spared (.inr start)

/-! ## Clusters -/

/-- Only the first character of a cluster starts one. -/
structure IsCluster (codes : List Nat) : Prop where
  nonempty : codes ≠ []
  continues : ∀ code ∈ codes.tail, continuesCluster code = true

theorem isCluster_of_mem_clusters {codes cluster : List Nat} (listed : cluster ∈ clusters codes) :
    IsCluster cluster := by
  induction codes generalizing cluster with
  | nil => cases listed
  | cons code rest ih =>
      unfold clusters at listed
      split at listed
      · rw [List.mem_singleton.mp listed]
        exact ⟨List.cons_ne_nil _ _, fun _ impossible => by cases impossible⟩
      next first others equal =>
        rw [equal] at ih
        have firstIs := ih List.mem_cons_self
        split at listed
        next continued =>
          rcases List.mem_cons.mp listed with rfl | later
          · refine ⟨List.cons_ne_nil _ _, fun other inFirst => ?_⟩
            cases first with
            | nil => cases inFirst
            | cons head tail =>
                rcases List.mem_cons.mp inFirst with rfl | inTail
                · exact continued
                · exact firstIs.continues other inTail
          · exact ih (List.mem_cons_of_mem first later)
        next =>
          rcases List.mem_cons.mp listed with rfl | later
          · exact ⟨List.cons_ne_nil _ _, fun _ impossible => by cases impossible⟩
          · exact ih later

theorem flatten_clusters (codes : List Nat) : (clusters codes).flatten = codes := by
  induction codes with
  | nil => rfl
  | cons code rest ih =>
      unfold clusters
      split
      next empty =>
        rw [empty] at ih
        rw [← ih]
        rfl
      next first others equal =>
        rw [equal] at ih
        split
        all_goals
          rw [← ih]
          rfl

theorem canonicalCluster_ne_nil {codes : List Nat} (nonempty : codes ≠ []) :
    canonicalCluster codes ≠ [] := by
  cases codes with
  | nil => exact absurd rfl nonempty
  | cons code rest =>
      refine composeCluster_ne_nil fun empty => decomposeCode_ne_nil 4 code ?_
      refine List.eq_nil_iff_forall_not_mem.mpr fun part listed => ?_
      have ordered : part ∈ orderMarks ((code :: rest).flatMap (decomposeCode 4)) :=
        mem_orderMarks.mpr (List.mem_flatMap.mpr ⟨code, List.mem_cons_self, listed⟩)
      rw [empty] at ordered
      cases ordered

theorem canonicalCluster_of_isBracket {code : Nat} (bracket : isBracket code = true) :
    canonicalCluster [code] = [code] := by
  rw [canonicalCluster, List.flatMap_singleton, decomposeCode_of_isBracket 4 bracket,
    orderMarks_of_isBracket bracket]
  rfl

/-- Decomposition brings no bracket among marks. -/
theorem not_isBracket_of_mem_ordered {codes : List Nat}
    (plain : ∀ code ∈ codes, isBracket code = false) :
    ∀ part ∈ orderMarks (codes.flatMap (decomposeCode 4)), isBracket part = false := by
  intro part listed
  obtain ⟨code, inCodes, decomposed⟩ := List.mem_flatMap.mp (mem_orderMarks.mp listed)
  exact not_isBracket_of_mem_decomposeCode (plain code inCodes) decomposed

/-- A cluster whose composed form ends with a bracket is that bracket. -/
theorem eq_singleton_of_canonicalCluster {cluster composed : List Nat} {bracket : Nat}
    (isCluster : IsCluster cluster) (isBracket_bracket : isBracket bracket = true)
    (ends : canonicalCluster cluster = composed ++ [bracket]) : cluster = [bracket] := by
  cases cluster with
  | nil => exact absurd rfl isCluster.nonempty
  | cons code rest =>
      have plainRest : ∀ other ∈ rest, isBracket other = false := by
        intro other listed
        rw [Bool.eq_false_iff]
        intro bracket
        have continued := isCluster.continues other listed
        rw [not_continuesCluster_of_isBracket bracket] at continued
        cases continued
      cases starts : isBracket code with
      | true =>
          rw [canonicalCluster, List.flatMap_cons, decomposeCode_of_isBracket 4 starts,
            List.singleton_append, orderMarks_of_isBracket starts] at ends
          obtain ⟨empty, -⟩ := eq_nil_of_composeCluster isBracket_bracket
            (not_isBracket_of_mem_ordered plainRest) ends
          cases rest with
          | nil =>
              have whole := canonicalCluster_of_isBracket starts
              rw [canonicalCluster, List.flatMap_cons, decomposeCode_of_isBracket 4 starts,
                List.singleton_append, orderMarks_of_isBracket starts, ends] at whole
              rw [← List.nil_append [code]] at whole
              rw [(List.append_singleton_inj.mp whole).2]
          | cons other others =>
              obtain ⟨part, listed⟩ := List.exists_mem_of_ne_nil _ (decomposeCode_ne_nil 4 other)
              have ordered : part ∈ orderMarks ((other :: others).flatMap (decomposeCode 4)) :=
                mem_orderMarks.mpr (List.mem_flatMap.mpr ⟨other, List.mem_cons_self, listed⟩)
              rw [empty] at ordered
              cases ordered
      | false =>
          have plain := not_isBracket_of_mem_ordered
            (List.forall_mem_cons.mpr ⟨starts, plainRest⟩)
          rw [canonicalCluster] at ends
          cases parts : orderMarks ((code :: rest).flatMap (decomposeCode 4)) with
          | nil =>
              rw [parts] at ends
              cases composed <;> cases ends
          | cons first others =>
              rw [parts] at ends plain
              obtain ⟨-, notPlain⟩ := eq_nil_of_composeCluster isBracket_bracket
                (fun other listed => plain other (List.mem_cons_of_mem first listed)) ends
              rw [plain first List.mem_cons_self] at notPlain
              cases notPlain

/-- A bracket at the end of a composed text is a cluster of its own. -/
theorem exists_of_flatMap_canonicalCluster {parts : List (List Nat)} {composed : List Nat}
    {bracket : Nat} (areClusters : ∀ cluster ∈ parts, IsCluster cluster)
    (isBracket_bracket : isBracket bracket = true)
    (ends : parts.flatMap canonicalCluster = composed ++ [bracket]) :
    ∃ earlier, parts = earlier ++ [[bracket]] ∧ earlier.flatMap canonicalCluster = composed := by
  rcases List.eq_nil_or_concat parts with rfl | ⟨earlier, cluster, rfl⟩
  · cases composed <;> cases ends
  · have isCluster := areClusters cluster (by simp)
    rw [List.concat_eq_append] at ends ⊢
    rw [List.flatMap_append, List.flatMap_singleton] at ends
    rcases List.eq_nil_or_concat (canonicalCluster cluster) with empty | ⟨front, last, split⟩
    · exact absurd empty (canonicalCluster_ne_nil isCluster.nonempty)
    · rw [split, List.concat_eq_append, ← List.append_assoc] at ends
      obtain ⟨equal, rfl⟩ := List.append_singleton_inj.mp ends
      rw [List.concat_eq_append] at split
      obtain rfl := eq_singleton_of_canonicalCluster isCluster isBracket_bracket split
      rw [canonicalCluster_of_isBracket isBracket_bracket] at split
      have alone : [] ++ [last] = front ++ [last] := split
      obtain ⟨rfl, -⟩ := List.append_singleton_inj.mp alone
      exact ⟨earlier, rfl, by rw [← equal, List.append_nil]⟩

/-! ## Texts -/

/-- A character above the control characters comes from its own code only. -/
theorem eq_of_ofNat {code : Nat} {c : Char} (positive : 0 < c.toNat) (equal : Char.ofNat code = c) :
    code = c.toNat := by
  rw [← equal] at positive ⊢
  unfold Char.ofNat at positive ⊢
  by_cases valid : code.isValidChar
  · rw [dif_pos valid]
    rfl
  · rw [dif_neg valid] at positive
    cases positive

end Text

theorem arrayElement?_eq_some {characters element : List Char} :
    arrayElement? characters = some element ↔ characters = element ++ ['[', ']'] := by
  unfold arrayElement?
  constructor
  · intro found
    split at found
    next rest reversed =>
      cases found
      rw [← List.reverse_reverse characters, reversed]
      simp
    next => cases found
  · rintro rfl
    simp

/-- A text has an array suffix if its codes end with those of the suffix. -/
theorem arrayElement?_of_codes {characters : List Char} {codes : List Nat}
    (ends : characters.map Char.toNat = codes ++ ['['.toNat, ']'.toNat]) :
    ∃ element, arrayElement? characters = some element := by
  obtain ⟨element, suffix, rfl, -, suffixes⟩ := List.map_eq_append_iff.mp ends
  have equal : suffix = ['[', ']'] := by
    refine (List.map_inj_right fun first second => Char.toNat_inj.mp).mp ?_
    rw [suffixes]
    rfl
  exact ⟨element, arrayElement?_eq_some.mpr (by rw [equal])⟩

/-- The codes of a composed text end with those of the suffix only if the text does. -/
theorem arrayElement?_of_composed {characters : List Char} {composed : List Nat}
    (ends : (Text.clusters (characters.map Char.toNat)).flatMap Text.canonicalCluster
      = composed ++ ['['.toNat, ']'.toNat]) :
    ∃ element, arrayElement? characters = some element := by
  have areClusters : ∀ cluster ∈ Text.clusters (characters.map Char.toNat),
      Text.IsCluster cluster := fun _ => Text.isCluster_of_mem_clusters
  rw [List.append_cons] at ends
  obtain ⟨withOpening, closing, before⟩ :=
    Text.exists_of_flatMap_canonicalCluster areClusters (by decide) ends
  rw [closing] at areClusters
  obtain ⟨earlier, opening, -⟩ := Text.exists_of_flatMap_canonicalCluster
    (fun cluster listed => areClusters cluster (List.mem_append_left _ listed)) (by decide) before
  refine @arrayElement?_of_codes _ earlier.flatten ?_
  rw [← Text.flatten_clusters (characters.map Char.toNat), closing, opening]
  simp

/-- The composed form of a text has an array suffix only if the text has one. -/
theorem arrayElement?_canonical {text : String} (plain : arrayElement? text.toList = none) :
    arrayElement? (Text.canonical text).toList = none := by
  unfold Text.canonical
  split
  next => exact plain
  next =>
    rw [String.toList_ofList]
    cases found : arrayElement? _ with
    | none => rfl
    | some element =>
        obtain ⟨front, suffix, split, -, suffixes⟩ :=
          List.map_eq_append_iff.mp (arrayElement?_eq_some.mp found)
        obtain ⟨first, others, rfl, opens, rest⟩ := List.map_eq_cons_iff.mp suffixes
        obtain ⟨second, none, rfl, closes, nothing⟩ := List.map_eq_cons_iff.mp rest
        obtain rfl := List.map_eq_nil_iff.mp nothing
        obtain rfl := Text.eq_of_ofNat (by decide) opens
        obtain rfl := Text.eq_of_ofNat (by decide) closes
        obtain ⟨bracketed, suffixed⟩ := arrayElement?_of_composed split
        rw [plain] at suffixed
        cases suffixed

end Nominal
