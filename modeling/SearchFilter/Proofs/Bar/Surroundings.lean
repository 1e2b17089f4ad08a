import SearchFilter.Proofs.Bar.Runs

/-!
What stands around a clause of a bar. Next to it are the clauses with the same note: the others of
its group, or the loose ones in a row with it. Together they are one operand of the filter.
-/

namespace SearchFilter.Bar

/-- The clauses with the note of a clause that are in a row with it, on both sides, and those
further away. -/
structure Around (clauses : List Clause) (index : Nat) (clause : Clause)
    (front before behind rear : List Clause) : Prop where
  taken : clauses.take index = front ++ before
  dropped : clauses.drop (index + 1) = behind ++ rear
  isStretch : IsStretch clause.mark.group front (before ++ clause :: behind) rear

theorem exists_around (clauses : List Clause) (index : Nat) (clause : Clause) :
    ∃ front before behind rear, Around clauses index clause front before behind rear := by
  refine ⟨(clauses.take index).rdropWhile (sameNote clause),
    (clauses.take index).rtakeWhile (sameNote clause),
    (clauses.drop (index + 1)).takeWhile (sameNote clause),
    (clauses.drop (index + 1)).dropWhile (sameNote clause),
    List.rdropWhile_append_rtakeWhile.symm, List.takeWhile_append_dropWhile.symm, ?_, ?_, ?_⟩
  · intro other member
    rcases List.mem_append.mp member with before | here
    · exact (sameNote_eq_true_iff.mp (List.mem_rtakeWhile_imp before)).symm
    · rcases List.mem_cons.mp here with rfl | behind
      · rfl
      · exact (sameNote_eq_true_iff.mp (List.mem_takeWhile_imp behind)).symm
  · intro last member
    exact (sameNote_eq_false_iff.mp (last_of_rdropWhile last member)).symm
  · intro next member
    exact (sameNote_eq_false_iff.mp (head_of_dropWhile next member)).symm

section

variable {rules : Rules} {groups : List Group} {clauses front before behind rear : List Clause}
  {index : Nat} {clause : Clause} (around : Around clauses index clause front before behind rear)

include around

theorem Around.set (present : clauses[index]? = some clause) (other : Clause) :
    clauses.set index other = front ++ (before ++ other :: behind) ++ rear := by
  rw [List.set_eq_take_append_cons_drop, if_pos (List.getElem?_eq_some_iff.mp present).1,
    around.taken, around.dropped]
  simp only [List.append_assoc, List.cons_append]

theorem Around.eraseIdx : clauses.eraseIdx index = front ++ (before ++ behind) ++ rear := by
  rw [List.eraseIdx_eq_take_drop_succ, around.taken, around.dropped]
  simp only [List.append_assoc]

theorem Around.clauses_eq (present : clauses[index]? = some clause) :
    clauses = front ++ (before ++ clause :: behind) ++ rear := by
  obtain ⟨inside, rfl⟩ := List.getElem?_eq_some_iff.mp present
  rw [← around.set present, List.set_getElem_self]

theorem Around.operands_set (present : clauses[index]? = some clause) (other : Clause)
    (same : other.mark.group = clause.mark.group) :
    operands rules groups (clauses.set index other) = operands rules groups front ++
      (rules.operand? (connectorOf? groups clause.mark.group)
        (before ++ other :: behind)).toList ++ operands rules groups rear := by
  have nonempty : before ++ other :: behind ≠ [] := by simp
  have isStretch : IsStretch clause.mark.group front (before ++ other :: behind) rear := by
    refine ⟨?_, around.isStretch.left, around.isStretch.right⟩
    have noted := around.isStretch.noted
    simp only [List.forall_mem_append, List.forall_mem_cons] at noted ⊢
    exact ⟨noted.1, same, noted.2.2⟩
  rw [around.set present, operands_stretch isStretch (absurd · nonempty)]

theorem Around.operands_eq (present : clauses[index]? = some clause) :
    operands rules groups clauses = operands rules groups front ++
      (rules.operand? (connectorOf? groups clause.mark.group)
        (before ++ clause :: behind)).toList ++ operands rules groups rear := by
  rw [← around.operands_set present clause rfl, around.set present, ← around.clauses_eq present]

theorem Around.last_in_front (present : clauses[index]? = some clause) {last : Clause}
    (member : last ∈ front.getLast?) :
    clauses[front.length - 1]? = some last ∧ front.length - 1 < index := by
  obtain ⟨nonempty, rfl⟩ := List.mem_getLast?_eq_getLast member
  have positive := List.length_pos_of_ne_nil nonempty
  have inside := (List.getElem?_eq_some_iff.mp present).1
  have length := congrArg List.length around.taken
  rw [List.length_take, List.length_append] at length
  refine ⟨?_, by omega⟩
  rw [around.clauses_eq present, List.append_assoc, List.getElem?_append_left (by omega),
    ← List.getLast?_eq_getElem?]
  exact member

end

/-! Clauses of a group. -/

section

variable {bar : Bar} {low mid high index : Nat} {first middle last clause : Clause} {id : String}
  {front before behind rear : List Clause}

theorem note_eq_some_iff (sound : bar.Sound) (present : bar.clauses[index]? = some clause) :
    clause.mark.group = some id ↔
      ∃ group ∈ bar.groups, group.id = id ∧ index ∈ group.indices := by
  rw [note_eq sound present, Option.map_eq_some_iff]
  simp only [groupAt_eq_some_iff sound.arranged.apart]
  constructor
  · rintro ⟨group, ⟨member, inside⟩, named⟩
    exact ⟨group, member, named, inside⟩
  · rintro ⟨group, member, named, inside⟩
    exact ⟨group, ⟨member, inside⟩, named⟩

theorem note_between (sound : bar.Sound) (here : bar.clauses[low]? = some first)
    (between : bar.clauses[mid]? = some middle) (there : bar.clauses[high]? = some last)
    (lower : low ≤ mid) (upper : mid ≤ high) (noted : first.mark.group = some id)
    (same : last.mark.group = some id) : middle.mark.group = some id := by
  obtain ⟨group, member, named, inFirst⟩ := (note_eq_some_iff sound here).mp noted
  obtain ⟨other, otherMember, otherNamed, inLast⟩ := (note_eq_some_iff sound there).mp same
  obtain rfl := List.inj_on_of_nodup_map sound.ids member otherMember (named.trans otherNamed.symm)
  obtain ⟨start, size, -, -, members⟩ := (sound.arranged.runs group member).bounds
  rw [members] at inFirst inLast
  exact (note_eq_some_iff sound between).mpr
    ⟨group, member, named, (members mid).mpr ⟨by omega, by omega⟩⟩

variable (sound : bar.Sound) (around : Around bar.clauses index clause front before behind rear)
  (present : bar.clauses[index]? = some clause)

include sound around present

theorem Around.mem_before (here : bar.clauses[low]? = some first) (less : low < index)
    (grouped : clause.mark.group = some id) (same : first.mark.group = some id) :
    first ∈ before := by
  have taken : (front ++ before)[low]? = some first := by
    rw [← around.taken, List.getElem?_take_of_lt less, here]
  by_cases early : low < front.length
  -- Then the last clause in front would be in the group too.
  · have last := List.getLast?_eq_some_getLast (List.ne_nil_of_length_pos (Nat.zero_lt_of_lt early))
    obtain ⟨there, bound⟩ := around.last_in_front present last
    have between := note_between sound here there present (by omega) (by omega) same grouped
    exact absurd (between.trans grouped.symm) (around.isStretch.left _ last)
  · rw [List.getElem?_append_right (by omega)] at taken
    exact List.mem_of_getElem? taken

theorem Around.accompanied (grouped : clause.mark.group = some id) : before ++ behind ≠ [] := by
  obtain ⟨group, member, named, inside⟩ := (note_eq_some_iff sound present).mp grouped
  obtain ⟨start, size, large, bound, members⟩ := (sound.arranged.runs group member).bounds
  rw [members] at inside
  have noted {place : Nat} {other : Clause} (there : bar.clauses[place]? = some other)
      (within : start ≤ place ∧ place < start + size) : other.mark.group = some id :=
    (note_eq_some_iff sound there).mpr ⟨group, member, named, (members place).mpr within⟩
  intro empty
  obtain ⟨rfl, rfl⟩ := List.append_eq_nil_iff.mp empty
  by_cases leads : index = start
  · have there := List.getElem?_eq_getElem (show index + 1 < bar.clauses.length by omega)
    have next : rear.head? = some bar.clauses[index + 1] := by
      rw [← List.nil_append rear, ← around.dropped, List.head?_drop, there]
    exact around.isStretch.right _ next ((noted there (by omega)).trans grouped.symm)
  · have there := List.getElem?_eq_getElem (show index - 1 < bar.clauses.length by omega)
    have same := noted there (by omega)
    exact List.not_mem_nil (around.mem_before sound present there (by omega) grouped same)

theorem Around.apart (alone : before ++ behind = []) :
    ∀ last ∈ front.getLast?, ∀ next ∈ rear.head?, sameNote last next = false := by
  intro last lastMember next nextMember
  have loose : clause.mark.group = none := by
    refine Option.eq_none_iff_forall_ne_some.mpr fun id grouped => ?_
    exact around.accompanied sound present grouped alone
  have left := around.isStretch.left last lastMember
  rw [loose] at left
  obtain ⟨id, noted⟩ := Option.ne_none_iff_exists'.mp left
  obtain ⟨here, lower⟩ := around.last_in_front present lastMember
  have there : bar.clauses[index + 1]? = some next := by
    rw [← List.head?_drop, around.dropped, (List.append_eq_nil_iff.mp alone).2, List.nil_append]
    exact nextMember
  rw [sameNote_eq_false_iff]
  intro same
  have between := note_between sound here present there (by omega) (by omega) noted
    (same.symm.trans noted)
  rw [loose] at between
  exact absurd between (by simp)

theorem Around.operands_eraseIdx (rules : Rules) :
    operands rules bar.groups (bar.clauses.eraseIdx index) = operands rules bar.groups front ++
      (rules.operand? (connectorOf? bar.groups clause.mark.group) (before ++ behind)).toList ++
        operands rules bar.groups rear := by
  have isStretch : IsStretch clause.mark.group front (before ++ behind) rear := by
    refine ⟨?_, around.isStretch.left, around.isStretch.right⟩
    have noted := around.isStretch.noted
    simp only [List.forall_mem_append, List.forall_mem_cons] at noted ⊢
    exact ⟨noted.1, noted.2.2⟩
  rw [around.eraseIdx, operands_stretch isStretch (around.apart sound present)]

end

end SearchFilter.Bar
