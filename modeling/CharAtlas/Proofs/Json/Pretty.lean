import CharAtlas.Proofs.Json.Text

/-! # Where written values end

A value that has been written is found again at the front of a text (`Json.valueSpan?_pretty`), and a
written object is read as the record of its fields, each with the text of its value
(`Json.record?_pretty`). -/

namespace CharAtlas.Json
variable {c : Char} {cs rest : List Char} {depth fuel : Nat}

/-! ### Spaces -/

theorem skipSpace_of_not_isSpace (h : isSpace c = false) (cs : List Char) :
    skipSpace (c :: cs) = c :: cs :=
  List.dropWhile_cons_of_neg (by simp [h])

theorem skipSpace_newline (depth : Nat) (cs : List Char) :
    skipSpace (newline depth ++ cs) = skipSpace cs := by
  have hspace : ∀ c ∈ newline depth, isSpace c = true :=
    List.forall_mem_cons.2 ⟨by decide, fun c hc => List.eq_of_mem_replicate hc ▸ by decide⟩
  unfold skipSpace
  rw [List.dropWhile_append, List.dropWhile_eq_nil_iff.2 hspace]
  rfl

theorem skipValue_newline (fuel depth : Nat) (cs : List Char) :
    skipValue fuel (newline depth ++ cs) = skipValue fuel cs := by
  cases fuel with
  | zero => rfl
  | succ fuel => rw [skipValue, skipValue, skipSpace_newline]

theorem skipValue_space (fuel : Nat) (cs : List Char) :
    skipValue fuel (' ' :: cs) = skipValue fuel cs := by
  cases fuel with
  | zero => rfl
  | succ fuel =>
    have hspace : skipSpace (' ' :: cs) = skipSpace cs := rfl
    rw [skipValue, skipValue, hspace]

theorem skipItems_newline (fuel depth : Nat) (cs : List Char) :
    skipItems fuel (newline depth ++ cs) = skipItems fuel cs := by
  cases fuel with
  | zero => rfl
  | succ fuel => rw [skipItems, skipItems, skipValue_newline]

theorem skipFields_newline (fuel depth : Nat) (cs : List Char) :
    skipFields fuel (newline depth ++ cs) = skipFields fuel cs := by
  cases fuel with
  | zero => rfl
  | succ fuel => rw [skipFields, skipFields, skipSpace_newline]

/-! ### Values -/

/-- The first character of a written number. -/
theorem exists_ofInt (i : Int) :
    ∃ c cs, (Numeral.ofInt i).toList = c :: cs ∧ (c = '-' ∨ c.isDigit = true) := by
  rw [toList_ofInt]
  split_ifs
  · exact ⟨'-', _, rfl, .inl rfl⟩
  · obtain ⟨c, cs, hdigits, hc, -⟩ := Numeral.digits_eq_cons i.natAbs
    exact ⟨c, cs, hdigits, .inr hc⟩

theorem isSpace_of_startsNumber (h : c = '-' ∨ c.isDigit = true) : isSpace c = false := by
  rw [Bool.eq_false_iff]
  intro hspace
  simp only [isSpace, Bool.or_eq_true, beq_iff_eq] at hspace
  obtain ((rfl | rfl) | rfl) | rfl := hspace <;> exact absurd h (by decide)

theorem skipValue_number (h : c = '-' ∨ c.isDigit = true) (cs : List Char) :
    skipValue (fuel + 1) (c :: cs) = skipNumber (c :: cs) := by
  rw [skipValue, skipSpace_of_not_isSpace (isSpace_of_startsNumber h)]
  split
  case h_7 => rfl
  all_goals
    rename_i heq
    rw [(List.cons.inj heq).1] at h
    exact absurd h (by decide)

/-- Neither a space nor a closing bracket stands at the front of a written value. -/
theorem exists_prettyChars (depth : Nat) (j : Json) :
    ∃ c cs, prettyChars depth j = c :: cs ∧ isSpace c = false ∧ c ≠ ']' := by
  cases j with
  | null => exact ⟨_, _, rfl, by decide, by decide⟩
  | bool b => cases b <;> exact ⟨_, _, rfl, by decide, by decide⟩
  | int i =>
    obtain ⟨c, cs, htext, hc⟩ := exists_ofInt i
    refine ⟨c, cs, htext, isSpace_of_startsNumber hc, ?_⟩
    rintro rfl
    exact absurd hc (by decide)
  | text s => exact ⟨_, _, rfl, by decide, by decide⟩
  | list items => cases items <;> exact ⟨_, _, rfl, by decide, by decide⟩
  | object fields =>
    rcases fields with _ | ⟨⟨key, value⟩, fields⟩ <;> exact ⟨_, _, rfl, by decide, by decide⟩

theorem skipSpace_prettyChars (depth : Nat) (j : Json) (rest : List Char) :
    skipSpace (prettyChars depth j ++ rest) = prettyChars depth j ++ rest := by
  obtain ⟨c, cs, hpretty, hc, -⟩ := exists_prettyChars depth j
  rw [hpretty]
  exact skipSpace_of_not_isSpace hc _

theorem endsNumber_newline (depth : Nat) (cs : List Char) : EndsNumber (newline depth ++ cs) := by
  intro c hc
  obtain rfl : '\n' = c := Option.some.inj hc
  decide

theorem endsNumber_comma (cs : List Char) : EndsNumber (',' :: cs) := by
  intro c hc
  obtain rfl : ',' = c := Option.some.inj hc
  decide

theorem prettyChars_length_pos (depth : Nat) (j : Json) : 0 < (prettyChars depth j).length := by
  obtain ⟨c, cs, hpretty, -⟩ := exists_prettyChars depth j
  rw [hpretty]
  exact Nat.zero_lt_succ _

theorem skipValue_int (hrest : EndsNumber rest) (i : Int) :
    skipValue (fuel + 1) (prettyChars depth (.int i) ++ rest) = some rest := by
  obtain ⟨c, cs, htext, hc⟩ := exists_ofInt i
  have hskip := skipNumber_ofInt hrest i
  show skipValue _ ((Numeral.ofInt i).toList ++ rest) = _
  rw [htext] at hskip ⊢
  rw [List.cons_append, skipValue_number hc]
  exact hskip

theorem skipValue_text (s : String) :
    skipValue (fuel + 1) (prettyChars depth (.text s) ++ rest) = some rest := by
  show skipText (escaped s.toList ++ ['"'] ++ rest) = _
  rw [List.append_assoc]
  exact skipText_escaped s.toList rest

theorem skipValue_list (item : Json) (items : List Json) :
    skipValue (fuel + 1) (prettyChars depth (.list (item :: items)) ++ rest) =
      skipItems fuel (prettyChars (depth + 1) item ++ (prettyItems (depth + 1) items ++
        (newline depth ++ ']' :: rest))) := by
  obtain ⟨c, cs, hpretty, -, hclose⟩ := exists_prettyChars (depth + 1) item
  simp only [prettyChars, List.cons_append, List.append_assoc, List.nil_append]
  rw [skipValue, skipSpace_of_not_isSpace (by decide)]
  simp only [skipSpace_newline, skipSpace_prettyChars]
  split
  · rename_i heq
    rw [hpretty] at heq
    exact absurd (List.cons.inj heq).1 hclose
  · rfl

theorem skipValue_object (key : String) (value : Json) (fields : List (String × Json)) :
    skipValue (fuel + 1) (prettyChars depth (.object ((key, value) :: fields)) ++ rest) =
      skipFields fuel (quoted key ++ ':' :: ' ' :: (prettyChars (depth + 1) value ++
        (prettyFields (depth + 1) fields ++ (newline depth ++ '\x7d' :: rest)))) := by
  simp only [prettyChars, List.cons_append, List.append_assoc, List.nil_append]
  rw [skipValue, skipSpace_of_not_isSpace (by decide)]
  simp only [skipSpace_newline]
  rfl

theorem skipItems_last (h : skipValue fuel cs = some (newline depth ++ ']' :: rest)) :
    skipItems (fuel + 1) cs = some rest := by
  rw [skipItems, h, Option.bind_some, skipSpace_newline]
  rfl

theorem skipItems_next (h : skipValue fuel cs = some (',' :: (newline depth ++ rest))) :
    skipItems (fuel + 1) cs = skipItems fuel rest := by
  rw [skipItems, h, Option.bind_some, ← skipItems_newline fuel depth]
  rfl

theorem skipFields_field (key : String) (h : skipValue fuel cs = some rest) :
    skipFields (fuel + 1) (quoted key ++ ':' :: ' ' :: cs) =
      match skipSpace rest with
      | ',' :: r => skipFields fuel r
      | '\x7d' :: r => some r
      | _ => none := by
  simp only [quoted, List.cons_append, List.append_assoc, List.nil_append]
  rw [skipFields, skipSpace_of_not_isSpace (by decide)]
  simp only [skipText_escaped, Option.bind_some]
  rw [skipSpace_of_not_isSpace (by decide)]
  show (skipValue fuel (' ' :: cs)).bind _ = _
  rw [skipValue_space]
  exact congrArg (Option.bind · _) h

theorem skipFields_last (key : String)
    (h : skipValue fuel cs = some (newline depth ++ '\x7d' :: rest)) :
    skipFields (fuel + 1) (quoted key ++ ':' :: ' ' :: cs) = some rest := by
  rw [skipFields_field key h, skipSpace_newline]
  rfl

theorem skipFields_next (key : String)
    (h : skipValue fuel cs = some (',' :: (newline depth ++ rest))) :
    skipFields (fuel + 1) (quoted key ++ ':' :: ' ' :: cs) = skipFields fuel rest := by
  rw [skipFields_field key h, ← skipFields_newline fuel depth]
  rfl

mutual

/-- A value ends where it has been written to, with fuel for each of its characters. -/
theorem skipValue_pretty : (j : Json) → (depth fuel : Nat) → (rest : List Char) →
    (prettyChars depth j).length ≤ fuel → EndsNumber rest →
    skipValue fuel (prettyChars depth j ++ rest) = some rest
  | j, depth, 0, _, hfuel, _ => absurd hfuel (Nat.not_le_of_lt (prettyChars_length_pos depth j))
  | .null, _, _ + 1, _, _, _ => rfl
  | .bool true, _, _ + 1, _, _, _ => rfl
  | .bool false, _, _ + 1, _, _, _ => rfl
  | .int i, _, _ + 1, _, _, hrest => skipValue_int hrest i
  | .text s, _, _ + 1, _, _, _ => skipValue_text s
  | .list [], _, _ + 1, _, _, _ => rfl
  | .list (item :: items), depth, fuel + 1, rest, hfuel, _ => by
    rw [skipValue_list]
    exact skipItems_pretty item items (depth + 1) depth fuel rest
      (by simp [prettyChars] at hfuel; omega)
  | .object [], _, _ + 1, _, _, _ => rfl
  | .object ((key, value) :: fields), depth, fuel + 1, rest, hfuel, _ => by
    rw [skipValue_object]
    exact skipFields_pretty key value fields (depth + 1) depth fuel rest
      (by simp [prettyChars] at hfuel; omega)
termination_by j => sizeOf j

theorem skipItems_pretty : (item : Json) → (items : List Json) → (depth outer fuel : Nat) →
    (rest : List Char) →
    (prettyChars depth item).length + (prettyItems depth items).length < fuel →
    skipItems fuel (prettyChars depth item ++ (prettyItems depth items ++
      (newline outer ++ ']' :: rest))) = some rest
  | _, _, _, _, 0, _, hfuel => absurd hfuel (Nat.not_lt_zero _)
  | item, [], depth, _, fuel + 1, _, hfuel =>
    skipItems_last (skipValue_pretty item depth fuel _ (by omega) (endsNumber_newline _ _))
  | item, next :: items, depth, outer, fuel + 1, rest, hfuel => by
    simp only [prettyItems, List.append_assoc, List.cons_append, List.length_cons,
      List.length_append] at hfuel ⊢
    rw [skipItems_next (skipValue_pretty item depth fuel _ (by omega) (endsNumber_comma _))]
    exact skipItems_pretty next items depth outer fuel rest (by omega)
termination_by item items => 1 + sizeOf item + sizeOf items

theorem skipFields_pretty : (key : String) → (value : Json) → (fields : List (String × Json)) →
    (depth outer fuel : Nat) → (rest : List Char) →
    (prettyChars depth value).length + (prettyFields depth fields).length < fuel →
    skipFields fuel (quoted key ++ ':' :: ' ' :: (prettyChars depth value ++
      (prettyFields depth fields ++ (newline outer ++ '\x7d' :: rest)))) = some rest
  | _, _, _, _, _, 0, _, hfuel => absurd hfuel (Nat.not_lt_zero _)
  | key, value, [], depth, _, fuel + 1, _, hfuel =>
    skipFields_last key
      (skipValue_pretty value depth fuel _ (by omega) (endsNumber_newline _ _))
  | key, value, (next, after) :: fields, depth, outer, fuel + 1, rest, hfuel => by
    simp only [prettyFields, List.append_assoc, List.cons_append, List.length_cons,
      List.length_append] at hfuel ⊢
    rw [skipFields_next key
      (skipValue_pretty value depth fuel _ (by omega) (endsNumber_comma _))]
    exact skipFields_pretty next after fields depth outer fuel rest (by omega)
termination_by _ value fields => 1 + sizeOf value + sizeOf fields

end

/-! ### Cutting values out -/

theorem upTo_append (cs rest : List Char) : upTo rest (cs ++ rest) = cs := by
  rw [upTo, List.length_append, Nat.add_sub_cancel, List.take_left]

theorem valueSpan?_space (cs : List Char) : valueSpan? (' ' :: cs) = valueSpan? cs :=
  rfl

/-- A value is found again at the front of a text. -/
theorem valueSpan?_pretty (j : Json) (depth : Nat) (hrest : EndsNumber rest) :
    valueSpan? (prettyChars depth j ++ rest) = some (prettyChars depth j, rest) := by
  have hskip := skipValue_pretty j depth (2 * (prettyChars depth j ++ rest).length + 2) rest
    (by rw [List.length_append]; omega) hrest
  rw [valueSpan?, skipSpace_prettyChars, hskip, Option.map_some, upTo_append]

theorem document?_pretty (j : Json) : document? j.pretty = some (prettyChars 0 j) := by
  have hspan : valueSpan? (prettyChars 0 j ++ []) = some (prettyChars 0 j, []) :=
    valueSpan?_pretty j 0 (by simp [EndsNumber])
  rw [List.append_nil] at hspan
  rw [document?, pretty, String.toList_ofList, hspan]
  rfl

/-! ### Records -/

theorem fields?_newline (fuel depth : Nat) (cs : List Char) :
    fields? fuel (newline depth ++ cs) = fields? fuel cs := by
  cases fuel with
  | zero => rfl
  | succ fuel => rw [fields?, fields?, skipSpace_newline]

theorem fields?_field {value : List Char} (key : String) (h : valueSpan? cs = some (value, rest)) :
    fields? (fuel + 1) (quoted key ++ ':' :: ' ' :: cs) =
      match skipSpace rest with
      | ',' :: r => (fields? fuel r).map fun (fields, r) => ((key, value) :: fields, r)
      | '\x7d' :: r => some ([(key, value)], r)
      | _ => none := by
  simp only [quoted, List.cons_append, List.append_assoc, List.nil_append]
  rw [fields?, skipSpace_of_not_isSpace (by decide)]
  simp only [decodeText_escaped, Option.bind_some, String.ofList_toList]
  rw [skipSpace_of_not_isSpace (by decide)]
  show (valueSpan? (' ' :: cs)).bind _ = _
  rw [valueSpan?_space]
  exact congrArg (Option.bind · _) h

/-- The fields of a record with the text of each value. -/
def fieldTexts (depth : Nat) (fields : List (String × Json)) : List (String × List Char) :=
  fields.map fun (key, value) => (key, prettyChars depth value)

theorem fields?_pretty (key : String) (value : Json) (fields : List (String × Json))
    (depth outer : Nat) (rest : List Char) (hfuel : fields.length < fuel) :
    fields? fuel (quoted key ++ ':' :: ' ' :: (prettyChars depth value ++
        (prettyFields depth fields ++ (newline outer ++ '\x7d' :: rest)))) =
      some (fieldTexts depth ((key, value) :: fields), rest) := by
  induction fields generalizing key value fuel with
  | nil =>
    obtain ⟨fuel, rfl⟩ := Nat.exists_eq_add_one.2 hfuel
    rw [prettyFields, List.nil_append,
      fields?_field key (valueSpan?_pretty value depth (endsNumber_newline _ _)), skipSpace_newline]
    rfl
  | cons field fields ih =>
    obtain ⟨fuel, rfl⟩ := Nat.exists_eq_add_one.2 (Nat.zero_lt_of_lt hfuel)
    have hfields := ih field.1 field.2 (Nat.lt_of_succ_lt_succ hfuel)
    simp only [prettyFields, List.append_assoc, List.cons_append]
    rw [fields?_field key (valueSpan?_pretty value depth (endsNumber_comma _)),
      skipSpace_of_not_isSpace (by decide)]
    simp only [fields?_newline, hfields]
    rfl

theorem length_le_prettyFields (depth : Nat) (fields : List (String × Json)) :
    fields.length ≤ (prettyFields depth fields).length := by
  induction fields with
  | nil => exact Nat.le_refl 0
  | cons field fields ih =>
    simp only [prettyFields, List.cons_append, List.length_cons, List.length_append]
    omega

theorem keys_fieldTexts (depth : Nat) (fields : List (String × Json)) :
    (fieldTexts depth fields).map (·.1) = fields.map (·.1) :=
  List.map_map ..

theorem record?_object (keys : List String) {fields : List (String × List Char)}
    (hopen : skipSpace cs ≠ ['\x7d']) (hfields : fields? cs.length cs = some (fields, [])) :
    record? keys ('\x7b' :: cs) =
      let known := fields.filter fun (key, _) => keys.contains key
      if keysDistinct known then some known else none := by
  rw [record?]
  split
  · rename_i hclose
    exact absurd hclose hopen
  · rw [hfields]

/-- A record is read back, each of its fields as the text of its value. -/
theorem record?_pretty (keys : List String) (fields : List (String × Json))
    (hkeys : fields.map (·.1) = keys) (hdistinct : keys.Nodup) (depth : Nat) :
    record? keys (prettyChars depth (.object fields)) = some (fieldTexts (depth + 1) fields) := by
  have hknown : ((fieldTexts (depth + 1) fields).filter fun (key, _) => keys.contains key) =
      fieldTexts (depth + 1) fields := by
    refine List.filter_eq_self.2 fun field hfield => ?_
    rw [List.contains_iff_mem, ← hkeys, ← keys_fieldTexts (depth + 1)]
    exact List.mem_map_of_mem hfield
  have hkeysDistinct : keysDistinct (fieldTexts (depth + 1) fields) = true := by
    rw [keysDistinct, keys_fieldTexts, hkeys]
    exact decide_eq_true hdistinct
  rcases fields with _ | ⟨⟨key, value⟩, fields⟩
  · rfl
  · have hlength := length_le_prettyFields (depth + 1) fields
    simp only [prettyChars, List.cons_append, List.append_assoc]
    refine (record?_object keys ?_
      ((fields?_newline ..).trans (fields?_pretty _ _ _ _ _ _ ?_))).trans ?_
    · rw [skipSpace_newline]
      simp [quoted, skipSpace, isSpace]
    · simp only [List.length_append, List.length_cons]
      omega
    · rw [hknown, if_pos hkeysDistinct]

theorem lookup_fieldTexts (depth : Nat) (fields : List (String × Json)) (key : String) :
    (fieldTexts depth fields).lookup key = (fields.lookup key).map (prettyChars depth) := by
  induction fields with
  | nil => rfl
  | cons field fields ih =>
    rw [fieldTexts, List.map_cons, List.lookup_cons, List.lookup_cons]
    split
    · rfl
    · exact ih

theorem lookup_text (depth : Nat) {fields : List (String × Json)} {key s : String}
    (h : fields.lookup key = some (.text s)) :
    ((fieldTexts depth fields).lookup key).bind textOf? = some s := by
  rw [lookup_fieldTexts, h]
  exact textOf?_quoted s

theorem lookup_int (depth : Nat) {fields : List (String × Json)} {key : String} {i : Int}
    (h : fields.lookup key = some (.int i)) :
    ((fieldTexts depth fields).lookup key).bind integerOf? = some i := by
  rw [lookup_fieldTexts, h]
  exact integerOf?_ofInt i

end CharAtlas.Json
