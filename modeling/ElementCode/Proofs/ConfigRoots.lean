import ElementCode.Proofs.ConfigMapping

/-!
# The root of a configuration file

A configuration file holds one value.  A mapping comes to what its settings say, and null, which is
what an empty file holds, gives the default configuration.  Any other value is refused, unless it
says nothing: before it looks at the kind of the root, a load takes the defaults for every value
that counts as absent.  `Value.Vacant` lists these values, and `load_of_read` says for every root
what a load comes to.
-/

namespace ElementCode

namespace Value

/-- A value that counts as absent: null, false, zero, and everything that is empty. -/
inductive Vacant : Value → Prop
  | null : Vacant .null
  | off : Vacant (.bool false)
  | zero : Vacant (.int 0)
  | floatZero {x : Float} : x == 0.0 → Vacant (.float x)
  | emptyText : Vacant (.str "")
  | emptyPoints : Vacant (.wide [])
  | emptyBytes : Vacant (.bytes [])
  | emptyList : Vacant (.list [])
  | emptyTuple : Vacant (.tuple [])
  | emptySet : Vacant (.set [])
  | emptyMapping : Vacant (.dict [])

lemma Vacant.isTruthy {v : Value} (h : v.Vacant) : v.isTruthy = false := by
  cases h with
  | floatZero hx => simpa [Value.isTruthy, bne] using hx
  | _ => rfl

/-- A value is truthy exactly when it is none of the values that count as absent. -/
lemma isTruthy_iff_not_vacant (v : Value) : v.isTruthy ↔ ¬ v.Vacant := by
  refine ⟨fun h hvacant => ?_, fun h => ?_⟩
  · rw [hvacant.isTruthy] at h
    exact absurd h (by decide)
  · by_contra hfalse
    rw [Bool.not_eq_true] at hfalse
    apply h
    cases v with
    | null => exact .null
    | bool b =>
      obtain rfl : b = false := hfalse
      exact .off
    | int n =>
      obtain rfl : n = 0 := by simpa [Value.isTruthy] using hfalse
      exact .zero
    | float x => exact .floatZero (by simpa [Value.isTruthy, bne] using hfalse)
    | str s =>
      obtain rfl : s = "" := by simpa [Value.isTruthy] using hfalse
      exact .emptyText
    | wide points =>
      obtain rfl : points = [] := by simpa [Value.isTruthy] using hfalse
      exact .emptyPoints
    | bytes b =>
      obtain rfl : b = [] := by simpa [Value.isTruthy] using hfalse
      exact .emptyBytes
    | list items =>
      obtain rfl : items = [] := by simpa [Value.isTruthy] using hfalse
      exact .emptyList
    | tuple items =>
      obtain rfl : items = [] := by simpa [Value.isTruthy] using hfalse
      exact .emptyTuple
    | set items =>
      obtain rfl : items = [] := by simpa [Value.isTruthy] using hfalse
      exact .emptySet
    | dict entries =>
      obtain rfl : entries = [] := by simpa [Value.isTruthy] using hfalse
      exact .emptyMapping
    | date | moment | enclosing | node => exact absurd hfalse (by simp [Value.isTruthy])

end Value

namespace Config

/-! ## What a root comes to -/

variable {root : Value}

lemma ofRoot_of_vacant (h : root.Vacant) : ofRoot root = .ok {} := by
  unfold ofRoot
  rw [if_neg (by simp [h.isTruthy])]

lemma ofRoot_of_not_vacant (h : ¬ root.Vacant) (hroot : ∀ entries, root ≠ .dict entries) :
    ofRoot root = .error (.refused .notMapping) := by
  unfold ofRoot
  rw [if_pos ((Value.isTruthy_iff_not_vacant root).2 h)]
  split
  · next entries => exact absurd rfl (hroot entries)
  · rfl

/-- A file that can be read comes to what its text comes to. -/
lemma load_of_readText {t : FileTree} {path text : String}
    (h : t.readText (.ofString path) = .ok text) : load t path = ofText path text := by
  rw [load, h]

/-- A text comes to what its root comes to. -/
lemma ofText_of_read {path text : String} (h : Yaml.read text = .ok root) :
    ofText path text = (ofRoot root).mapError .ofReport := by
  rw [ofText, h]

/-- **What a configuration file comes to.**  Let a file be readable and let its text have a value.

* Null gives the default configuration.
* A mapping gives what its settings give, or what is reported for them.
* Any other value gives the default configuration when it counts as absent, and no other value
  gives a configuration.
* Values that do not count as absent are refused for not being a mapping. -/
theorem load_of_read (t : FileTree) (path text : String) (root : Value)
    (htext : t.readText (.ofString path) = .ok text) (hroot : Yaml.read text = .ok root) :
    (root = .null → load t path = .ok {}) ∧
    (∀ entries, root = .dict entries →
      load t path = (ofSettings (entries.map fun (k, v) => (k, .plain v))).mapError .ofReport) ∧
    ((∀ entries, root ≠ .dict entries) →
      (load t path = .ok {} ↔ root.Vacant) ∧
      (load t path = .error (.refused .notMapping) ↔ ¬ root.Vacant)) ∧
    (LoadError.refused .notMapping).message =
      "Config root must be a mapping with defined fields." := by
  have hload : load t path = (ofRoot root).mapError .ofReport := by
    rw [load_of_readText htext, ofText_of_read hroot]
  refine ⟨?_, ?_, fun hother => ?_, rfl⟩
  · rintro rfl
    rw [hload, ofRoot_of_vacant .null]
    rfl
  · rintro entries rfl
    rw [load_of_readText htext, ofText_eq_ofSettings hroot]
  · by_cases hvacant : root.Vacant
    · have hdefault : load t path = .ok {} := by
        rw [hload, ofRoot_of_vacant hvacant]
        rfl
      rw [hdefault]
      simp [hvacant]
    · have hrefused : load t path = .error (.refused .notMapping) := by
        rw [hload, ofRoot_of_not_vacant hvacant hother]
        rfl
      rw [hrefused]
      simp [hvacant]

/-- A list that holds something, if only an empty list, is refused. -/
theorem load_of_nested_list :
    let t : FileTree := { files := [([['c']], FileTree.encode "[[]]")] }
    t.readText (.ofString "c") = .ok "[[]]" ∧ Yaml.read "[[]]" = .ok (.list [.list []]) ∧
      load t "c" = .error (.refused .notMapping) := by
  intro t
  have htext : t.readText (.ofString "c") = .ok "[[]]" := by
    dsimp only [t]
    cbv
  have hroot : Yaml.read "[[]]" = .ok (.list [.list []]) := by cbv
  have hother := (load_of_read t "c" "[[]]" _ htext hroot).2.2.1 (by simp)
  refine ⟨htext, hroot, hother.2.2 ?_⟩
  rintro ⟨⟩

/-- An empty list is no mapping, and yet it gives the default configuration. -/
theorem load_of_empty_list :
    let t : FileTree := { files := [([['c']], FileTree.encode "[]")] }
    t.readText (.ofString "c") = .ok "[]" ∧ Yaml.read "[]" = .ok (.list []) ∧
      load t "c" = .ok {} := by
  intro t
  have htext : t.readText (.ofString "c") = .ok "[]" := by
    dsimp only [t]
    cbv
  have hroot : Yaml.read "[]" = .ok (.list []) := by cbv
  refine ⟨htext, hroot, ?_⟩
  rw [load_of_readText htext, ofText_of_read hroot, ofRoot_of_vacant .emptyList]
  rfl

end Config

end ElementCode
