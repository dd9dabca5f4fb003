import BlockScan.Proofs.Json.Scalars
import BlockScan.Proofs.Json.Sorted
import BlockScan.Proofs.Json.Steps
import BlockScan.Proofs.Json.Strings

/-!
# Reading what was written

The reader takes the text of a value back to the value, in every style that sets the items apart
by nothing but spaces. The induction is on the value; what it carries from a value to its items is
`ReadsBack`, which says so inside any frames and in front of anything that cannot go on with a
number. The top is `read_write`.
-/

set_option autoImplicit false

namespace BlockScan.Json

/-- Whether a style puts nothing but spaces between the items. -/
def Style.IsSpacing : Style → Prop
  | .inline => True
  | .indented unit => unit.toList.all isSpace = true

/-- The indent settings whose style puts nothing but spaces between the items: no setting, a
number, a truth value, or a text of spaces. -/
def IsIndent : Json → Prop
  | .null | .bool _ | .int _ => True
  | .string unit => unit.toList.all isSpace = true
  | _ => False

section Styles

variable {style : Style} {rest : List Char}

/-- The style of such a setting puts nothing but spaces between the items. -/
theorem isSpacing_ofIndent {indent : Json} (h : indent.IsIndent) :
    (Style.ofIndent indent).IsSpacing := by
  cases indent with
  | null => trivial
  | bool b => cases b <;> rfl
  | int n =>
    show (String.ofList (List.replicate n.toNat ' ')).toList.all isSpace = true
    rw [String.toList_ofList, List.all_replicate]
    split <;> rfl
  | float x => exact h.elim
  | string unit => exact h
  | array items => exact h.elim
  | object fields => exact h.elim

/-- What opens a line consists of spaces. -/
theorem all_isSpace_newLine (h : style.IsSpacing) (level : Nat) :
    (style.newLine level).all isSpace = true := by
  cases style with
  | inline => rfl
  | indented unit =>
    have hunit : ∀ c ∈ unit.toList, isSpace c = true := List.all_eq_true.1 h
    rw [Style.newLine, List.all_cons, List.all_eq_true.2]
    · rfl
    intro c hc
    obtain ⟨cs, hcs, hmem⟩ := List.mem_flatten.1 hc
    rw [List.eq_of_mem_replicate hcs] at hmem
    exact hunit c hmem

/-- A reader passes over what opens a line and stops at what stands on it. -/
theorem skipSpace_newLine (h : style.IsSpacing) (level : Nat) {c : Char} (hc : isSpace c = false)
    (rest : List Char) : skipSpace (style.newLine level ++ c :: rest) = c :: rest := by
  rw [skipSpace_append (all_isSpace_newLine h level)]
  exact skipSpace_cons hc rest

/-- Between two items stand a comma and some spaces. -/
theorem exists_comma (h : style.IsSpacing) (level : Nat) :
    ∃ ws, style.comma level = ',' :: ws ∧ ws.all isSpace = true := by
  cases style with
  | inline => exact ⟨[' '], rfl, rfl⟩
  | indented unit => exact ⟨_, rfl, all_isSpace_newLine h level⟩

/-- A number cannot go on into the next line. -/
theorem ends_newLine (h : Ends rest) (level : Nat) : Ends (style.newLine level ++ rest) := by
  cases style with
  | inline => exact h
  | indented unit => exact ends_cons rfl

/-- A number cannot go on over the comma behind it. -/
theorem ends_comma (level : Nat) : Ends (style.comma level ++ rest) := by
  cases style with
  | inline => exact ends_cons rfl
  | indented unit => exact ends_cons rfl

/-- Behind an item of an array stands a comma or what follows the array, so a number ends there. -/
theorem ends_writeItems (h : Ends rest) (level : Nat) (items : List Json) :
    Ends (writeItems style level items ++ rest) := by
  cases items with
  | nil => exact h
  | cons v items =>
    rw [writeItems, List.append_assoc, List.append_assoc]
    exact ends_comma level

/-- Behind the value of a field stands a comma or what follows the object, so a number ends
there. -/
theorem ends_writeFields (h : Ends rest) (level : Nat) (fields : List (String × Json)) :
    Ends (writeFields style level fields ++ rest) := by
  cases fields with
  | nil => exact h
  | cons f fields =>
    rw [writeFields, List.append_assoc, List.append_assoc, List.append_assoc]
    exact ends_comma level

end Styles

/-- Whether the text of a value can begin with a character. -/
def beginsValue (c : Char) : Bool :=
  Decimal.isDigit c || ['-', '"', '[', '\x7b', 'n', 't', 'f'].contains c

/-- An integer is written with a digit or a minus sign in front. -/
theorem exists_signed (i : Int) :
    ∃ c cs, Decimal.signed i = c :: cs ∧ (Decimal.isDigit c = true ∨ c = '-') := by
  cases i with
  | ofNat n =>
    obtain ⟨d, ds, hds, hd, -⟩ := Decimal.exists_digits n
    exact ⟨d, ds, hds, .inl hd⟩
  | negSucc n => exact ⟨'-', _, rfl, .inr rfl⟩

/-- The text of a value that is read back begins with a character that tells a value. -/
theorem exists_writeAt {v : Json} (hv : Exact v) (style : Style) (level : Nat) :
    ∃ c cs, writeAt style level v = c :: cs ∧ beginsValue c = true := by
  cases hv with
  | null => exact ⟨'n', _, rfl, rfl⟩
  | bool b => cases b <;> exact ⟨_, _, rfl, rfl⟩
  | @int i short =>
    obtain ⟨c, cs, hcs, hc⟩ := exists_signed i
    refine ⟨c, cs, by rw [writeAt, hcs], ?_⟩
    rcases hc with hc | rfl
    · rw [beginsValue, hc, Bool.true_or]
    · rfl
  | string s => exact ⟨'"', _, by rw [writeAt, writeString]; rfl, rfl⟩
  | @array items h =>
    cases items with
    | nil => exact ⟨'[', _, by rw [writeAt], rfl⟩
    | cons v items => exact ⟨'[', _, by rw [writeAt]; rfl, rfl⟩
  | @object fields names h =>
    cases fields with
    | nil => exact ⟨'\x7b', _, by rw [writeAt], rfl⟩
    | cons f fields => exact ⟨'\x7b', _, by rw [writeAt]; rfl, rfl⟩

/-- No character that begins a value is a space. -/
theorem not_isSpace_of_beginsValue {c : Char} (h : beginsValue c = true) : isSpace c = false := by
  rw [Bool.eq_false_iff]
  intro hs
  simp only [isSpace, Bool.or_eq_true, beq_iff_eq] at hs
  rcases hs with ((rfl | rfl) | rfl) | rfl <;> exact absurd h (by decide)

section Reading

variable {style : Style} {ws rest : List Char} {level : Nat} {frames outer : List Frame}

/-- Behind some spaces a reader comes to the text of the value as it is. -/
theorem skipSpace_writeAt {v : Json} (hws : ws.all isSpace = true) (hv : Exact v) (style : Style)
    (level : Nat) (rest : List Char) :
    skipSpace (ws ++ (writeAt style level v ++ rest)) = writeAt style level v ++ rest := by
  obtain ⟨c, cs, hcs, hc⟩ := exists_writeAt hv style level
  rw [skipSpace_append hws, hcs]
  exact skipSpace_cons (not_isSpace_of_beginsValue hc) _

/-- The text of a value never begins like what closes an array or an object. -/
theorem writeAt_append_ne {v : Json} (hv : Exact v) {c : Char} (hc : beginsValue c = false)
    (left : List Char) : writeAt style level v ++ rest ≠ c :: left := by
  obtain ⟨d, cs, hcs, hd⟩ := exists_writeAt hv style level
  intro heq
  rw [hcs, List.cons_append, List.cons.injEq] at heq
  rw [heq.1, hc] at hd
  cases hd

/-- The text of a value is read back to the value, inside any frames and in front of anything that
cannot go on with a number. -/
def ReadsBack (style : Style) (v : Json) : Prop :=
  ∀ (level : Nat) (frames : List Frame) (cs rest : List Char),
    skipSpace cs = writeAt style level v ++ rest → Ends rest →
      readFrom .value frames cs = readFrom (.after v) frames rest

/-- A word or number is read back when it is read alone, fits the limit on digits, and begins like
no string, array or object. -/
theorem readsBack_scalar {v : Json} (hlong : v.isLong = false)
    (hread : ∀ level rest, Ends rest → readScalar? (writeAt style level v ++ rest) = some (v, rest))
    (hhead : ∀ level, ∃ c cs, writeAt style level v = c :: cs ∧ c ∉ ['[', '\x7b', '"']) :
    ReadsBack style v := by
  intro level frames cs rest h hends
  obtain ⟨c, cs', hcs', hc⟩ := hhead level
  simp only [List.mem_cons, List.not_mem_nil, or_false, not_or] at hc
  apply readFrom_scalar
  · rw [h]
    exact hread level rest hends
  · exact hlong
  all_goals
    intro left hleft
    rw [h, hcs', List.cons_append, List.cons.injEq] at hleft
  · exact hc.1 hleft.1
  · exact hc.2.1 hleft.1
  · exact hc.2.2 hleft.1

/-- An integer that fits the limit on digits is read back. -/
theorem readsBack_int {i : Int} (short : Decimal.isLong i = false) : ReadsBack style (.int i) := by
  apply readsBack_scalar
  · exact short
  · intro level rest hends
    rw [writeAt]
    exact readScalar?_signed hends i
  · intro level
    obtain ⟨c, cs, hcs, hc⟩ := exists_signed i
    refine ⟨c, cs, by rw [writeAt, hcs], ?_⟩
    intro hmem
    have hnot : Decimal.isDigit c = false ∧ c ≠ '-' := by
      simp only [List.mem_cons, List.not_mem_nil, or_false] at hmem
      rcases hmem with rfl | rfl | rfl <;> decide
    rcases hc with hc | hc
    · rw [hnot.1] at hc
      cases hc
    · exact hnot.2 hc

/-- Every string is read back. -/
theorem readsBack_string (s : String) : ReadsBack style (.string s) := by
  intro level frames cs rest h _
  rw [writeAt, writeString_append] at h
  rw [readFrom_string h (readString_flatMap_escapeChar s.toList), List.reverse_nil,
    List.nil_append, String.ofList_toList]

/-- Behind an item the reader takes the others one by one and closes the array: induction on the
items that are left, with those before them in the frame. -/
theorem readFrom_writeItems (hstyle : style.IsSpacing) {items : List Json}
    (hitems : ∀ v ∈ items, Exact v ∧ ReadsBack style v) (before : List Json) (v : Json)
    (closing : Nat) :
    readFrom (.after v) (.array before :: outer)
        (writeItems style level items ++ (style.newLine closing ++ ']' :: rest)) =
      readFrom (.after (.array (before.reverse ++ v :: items))) outer rest := by
  have hends : Ends (style.newLine closing ++ ']' :: rest) := ends_newLine (ends_cons rfl) closing
  induction items generalizing before v with
  | nil =>
    rw [writeItems, List.nil_append,
      readFrom_closeArray (skipSpace_newLine hstyle closing rfl rest), List.reverse_cons]
  | cons w items ih =>
    obtain ⟨ws, hcomma, hws⟩ := exists_comma hstyle level
    obtain ⟨hw, hread⟩ := hitems w (List.mem_cons_self ..)
    have hrest := ih (fun u hu => hitems u (List.mem_cons_of_mem w hu)) (v :: before) w
    rw [List.reverse_cons, List.append_assoc, List.singleton_append] at hrest
    rw [← hrest, writeItems, hcomma]
    simp only [List.cons_append, List.append_assoc]
    rw [readFrom_item (skipSpace_cons rfl _)]
    exact hread level _ _ _ (skipSpace_writeAt hws hw style level _)
      (ends_writeItems hends level items)

/-- An array is read back when its items are. -/
theorem readsBack_array (hstyle : style.IsSpacing) {items : List Json}
    (hitems : ∀ v ∈ items, Exact v ∧ ReadsBack style v) : ReadsBack style (.array items) := by
  intro level frames cs rest h _
  cases items with
  | nil =>
    rw [writeAt] at h
    exact readFrom_emptyArray h (skipSpace_cons rfl rest)
  | cons v items =>
    obtain ⟨hv, hread⟩ := hitems v (List.mem_cons_self ..)
    rw [writeAt] at h
    simp only [List.cons_append, List.append_assoc, List.nil_append] at h
    have hends : Ends (style.newLine level ++ ']' :: rest) := ends_newLine (ends_cons rfl) level
    -- Behind the bracket and its spaces stands an item, so the array is not taken for an empty one.
    have hskip := skipSpace_writeAt (all_isSpace_newLine hstyle (level + 1)) hv style (level + 1)
      (writeItems style (level + 1) items ++ (style.newLine level ++ ']' :: rest))
    rw [readFrom_openArray h (by rw [hskip]; exact writeAt_append_ne hv rfl),
      hread (level + 1) (.array [] :: frames) _ _ ((skipSpace_skipSpace _).trans hskip)
        (ends_writeItems hends (level + 1) items)]
    exact readFrom_writeItems hstyle (fun u hu => hitems u (List.mem_cons_of_mem v hu)) [] v level

/-- Behind some spaces a reader comes to a string as it is. -/
theorem skipSpace_writeString (hws : ws.all isSpace = true) (s : String) (rest : List Char) :
    skipSpace (ws ++ (writeString s ++ rest)) = writeString s ++ rest := by
  rw [skipSpace_append hws]
  exact skipSpace_cons rfl _

/-- The name of a field, the colon and the value. -/
theorem readFrom_entry {v : Json} (hv : Exact v) (hread : ReadsBack style v) {name : String}
    {cs : List Char} {before : List (String × Json)}
    (h : skipSpace cs = writeString name ++ ':' :: ' ' :: (writeAt style level v ++ rest))
    (hends : Ends rest) :
    readFrom (.name before) frames cs =
      readFrom (.after v) (.object before name :: frames) rest := by
  rw [writeString_append] at h
  rw [readFrom_name h (readString_flatMap_escapeChar name.toList), List.reverse_nil,
    List.nil_append, String.ofList_toList, readFrom_colon (skipSpace_cons rfl _)]
  have hspace : [' '].all isSpace = true := rfl
  exact hread level _ _ _ (skipSpace_writeAt hspace hv style level rest) hends

/-- A field with a new name goes behind the others. -/
theorem putField_of_not_mem {name : String} {v : Json} {fields : List (String × Json)}
    (h : name ∉ fields.map Prod.fst) : putField name v fields = fields ++ [(name, v)] := by
  induction fields with
  | nil => rfl
  | cons f fields ih =>
    rw [List.map_cons, List.mem_cons, not_or] at h
    rw [putField, if_neg (Ne.symm h.1), ih h.2, List.cons_append]

/-- When names are kept apart, the name of a field is new to the fields before it. -/
theorem not_mem_of_nodup {name : String} {v : Json} {before fields : List (String × Json)}
    (h : ((before ++ (name, v) :: fields).map Prod.fst).Nodup) : name ∉ before.map Prod.fst := by
  intro hmem
  rw [List.map_append] at h
  exact List.disjoint_of_nodup_append h hmem (List.mem_cons_self ..)

/-- Behind a value the reader takes the other fields one by one and closes the object; it needs the
names apart, or a field would replace an earlier one. -/
theorem readFrom_writeFields (hstyle : style.IsSpacing) {fields : List (String × Json)}
    (hfields : ∀ f ∈ fields, Exact f.2 ∧ ReadsBack style f.2) (before : List (String × Json))
    (name : String) (v : Json) (closing : Nat)
    (hnames : ((before ++ (name, v) :: fields).map Prod.fst).Nodup) :
    readFrom (.after v) (.object before name :: outer)
        (writeFields style level fields ++ (style.newLine closing ++ '\x7d' :: rest)) =
      readFrom (.after (.object (before ++ (name, v) :: fields))) outer rest := by
  have hends : Ends (style.newLine closing ++ '\x7d' :: rest) :=
    ends_newLine (ends_cons rfl) closing
  induction fields generalizing before name v with
  | nil =>
    rw [writeFields, List.nil_append,
      readFrom_closeObject (skipSpace_newLine hstyle closing rfl rest),
      putField_of_not_mem (not_mem_of_nodup hnames)]
  | cons f fields ih =>
    obtain ⟨name', w⟩ := f
    obtain ⟨ws, hcomma, hws⟩ := exists_comma hstyle level
    obtain ⟨hw, hread⟩ := hfields (name', w) (List.mem_cons_self ..)
    -- No field read before has this name, so the field goes to the end.
    have hput : putField name v before = before ++ [(name, v)] :=
      putField_of_not_mem (not_mem_of_nodup hnames)
    have hrest := ih (fun u hu => hfields u (List.mem_cons_of_mem _ hu)) (before ++ [(name, v)])
      name' w
    rw [List.append_assoc, List.singleton_append] at hrest
    rw [← hrest hnames, writeFields, hcomma]
    simp only [List.cons_append, List.append_assoc]
    rw [readFrom_field (skipSpace_cons rfl _), hput]
    exact readFrom_entry hw hread (skipSpace_writeString hws name' _)
      (ends_writeFields hends level fields)

/-- An object is read back when its values are and no name occurs twice. -/
theorem readsBack_object (hstyle : style.IsSpacing) {fields : List (String × Json)}
    (names : (fields.map Prod.fst).Nodup)
    (hfields : ∀ f ∈ fields, Exact f.2 ∧ ReadsBack style f.2) :
    ReadsBack style (.object fields) := by
  intro level frames cs rest h _
  cases fields with
  | nil =>
    rw [writeAt] at h
    exact readFrom_emptyObject h (skipSpace_cons rfl rest)
  | cons f fields =>
    obtain ⟨name, v⟩ := f
    obtain ⟨hv, hread⟩ := hfields (name, v) (List.mem_cons_self ..)
    rw [writeAt] at h
    simp only [List.cons_append, List.append_assoc, List.nil_append] at h
    have hends : Ends (style.newLine level ++ '\x7d' :: rest) :=
      ends_newLine (ends_cons rfl) level
    have hskip := skipSpace_writeString (all_isSpace_newLine hstyle (level + 1)) name
      (':' :: ' ' :: (writeAt style (level + 1) v ++
        (writeFields style (level + 1) fields ++ (style.newLine level ++ '\x7d' :: rest))))
    rw [readFrom_openObject h (by rw [hskip]; intro left heq; cases heq),
      readFrom_entry hv hread ((skipSpace_skipSpace _).trans hskip)
        (ends_writeFields hends (level + 1) fields)]
    exact readFrom_writeFields hstyle (fun u hu => hfields u (List.mem_cons_of_mem _ hu)) [] name v
      level names

/-- Every value without a floating-point number, a name that occurs twice or too many digits is read
back, by induction on the value. -/
theorem readsBack (hstyle : style.IsSpacing) {v : Json} (hv : Exact v) : ReadsBack style v := by
  induction hv with
  | null =>
    apply readsBack_scalar
    · rfl
    · intro level rest _
      rw [writeAt]
      exact readScalar?_null
    · exact fun level => ⟨'n', _, rfl, by decide⟩
  | bool b =>
    apply readsBack_scalar
    · rfl
    · intro level rest _
      cases b
      · exact readScalar?_false
      · exact readScalar?_true
    · intro level
      cases b
      · exact ⟨'f', _, rfl, by decide⟩
      · exact ⟨'t', _, rfl, by decide⟩
  | int short => exact readsBack_int short
  | string s => exact readsBack_string s
  | array h ih => exact readsBack_array hstyle fun v hv => ⟨h v hv, ih v hv⟩
  | object names h ih => exact readsBack_object hstyle names fun f hf => ⟨h f hf, ih f hf⟩

end Reading

/-- No text of a value begins with a byte order mark, which the reader would refuse. -/
theorem head?_writeAt_ne {v : Json} (hv : Exact v) (style : Style) (level : Nat) :
    (writeAt style level v).head? ≠ some '\uFEFF' := by
  obtain ⟨c, cs, hcs, hc⟩ := exists_writeAt hv style level
  rw [hcs, List.head?_cons, Ne, Option.some.injEq]
  rintro rfl
  exact absurd hc (by decide)

/-- The text of a value is read back to the value, with the fields of every object in it in the
order of their names. -/
theorem read_write {style : Style} (hstyle : style.IsSpacing) {v : Json} (hv : Exact v) :
    read (write style v) = .ok v.sorted := by
  have hsorted := exact_sorted hv
  have hnone : [].all isSpace = true := rfl
  have hskip := skipSpace_writeAt hnone hsorted style 0 []
  have hread : readFrom .value [] (writeAt style 0 v.sorted ++ []) = .ok v.sorted :=
    (readsBack hstyle hsorted 0 [] _ [] hskip ends_nil).trans (readFrom_end rfl)
  rw [List.append_nil] at hread
  rw [read, write, String.toList_ofList, if_neg (head?_writeAt_ne hsorted style 0), hread]
  rfl

end BlockScan.Json
