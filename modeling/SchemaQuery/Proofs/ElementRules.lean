import SchemaQuery.Fragment
import SchemaQuery.Proofs.ElementQueries
import SchemaQuery.Proofs.Readings

/-!
# Rules for one element

Rules for an element of a list are joined in one body. Of all operators only a pattern and its
options look at the rest of the body (`Matching.operator_congr`), so the body holds of an element
when each rule does, one after the other, as long as no rule has options for the pattern of another
(`Matching.operatorsHold_flatten`). A rule that has options and no pattern never holds, and the body
does not either (`Matching.operatorsHold_flatten_eq_true_iff`). Hence the rules ask for one element
that satisfies all of them (`Fragment.containsElementThat_holds_iff`).
-/

namespace SchemaQuery

namespace Matching

/-! ## An operator among its siblings -/

section Siblings

variable {values : List Json} {siblings others : List (String × Json)} {entry : String × Json}

/-- A pattern looks for its options, options look for their pattern, and no other operator looks at
its siblings. -/
theorem operator_congr
    (hregex : entry.1 = "$regex" →
      Entries.get? siblings "$options" = Entries.get? others "$options")
    (hoptions : entry.1 = "$options" →
      Entries.contains siblings "$regex" = Entries.contains others "$regex") :
    operatorsHold values siblings [entry] = operatorsHold values others [entry] := by
  obtain ⟨key, operand⟩ := entry
  cases h : StoreOperator.ofKey? key with
  | none => simp only [operatorsHold, h]
  | some operator =>
    cases operator with
    | regex =>
      have hkey : key = "$regex" := (StoreOperator.ofKey?_eq_some_iff.1 h).symm
      simp only [operatorsHold, h, hregex hkey]
    | options =>
      have hkey : key = "$options" := (StoreOperator.ofKey?_eq_some_iff.1 h).symm
      simp only [operatorsHold, h, hoptions hkey]
    | _ => simp only [operatorsHold, h]

/-- Options without a pattern are an error. -/
theorem operatorsHold_options (values : List Json) (h : "$regex" ∉ Entries.keys siblings)
    (operand : Json) :
    operatorsHold values siblings [("$options", operand)] = .error (.malformed .optionsAlone) := by
  have hk : StoreOperator.ofKey? "$options" = some .options := StoreOperator.ofKey?_key .options
  rw [← Entries.contains_iff_mem_keys, Bool.not_eq_true] at h
  simp [operatorsHold, hk, h]

end Siblings

/-! ## Rules -/

/-- A rule is an object that constrains an element itself, rather than the fields of an object. -/
structure IsRule (rule : List (String × Json)) : Prop where
  ne_nil : rule ≠ []
  operator : ∀ key ∈ Entries.keys rule, isOperatorKey key = true
  notLogical : ∀ key ∈ Entries.keys rule, LogicalOperator.ofKey? key = none

variable {rules : List (List (String × Json))} {rule other : List (String × Json)}

theorem IsRule.isOperatorObject (h : IsRule rule) : isOperatorObject rule = true :=
  isOperatorObject_iff.2 ⟨fun hnil => h.ne_nil (List.map_eq_nil_iff.1 hnil), h.operator⟩

theorem IsRule.isElementCondition (h : IsRule rule) : isElementCondition rule = true :=
  isElementCondition_iff.2 ⟨h.isOperatorObject, h.notLogical⟩

theorem mem_keys_flatten_iff {key : String} :
    key ∈ Entries.keys rules.flatten ↔ ∃ rule ∈ rules, key ∈ Entries.keys rule := by
  simp [Entries.keys]

/-- The rules together are a rule. -/
theorem IsRule.flatten (hne : rules ≠ []) (h : ∀ rule ∈ rules, IsRule rule) :
    IsRule rules.flatten where
  ne_nil hnil := by
    obtain ⟨rule, hr⟩ := List.exists_mem_of_ne_nil _ hne
    exact (h rule hr).ne_nil (List.flatten_eq_nil_iff.1 hnil rule hr)
  operator key hk := by
    obtain ⟨rule, hr, hk⟩ := mem_keys_flatten_iff.1 hk
    exact (h rule hr).operator key hk
  notLogical key hk := by
    obtain ⟨rule, hr, hk⟩ := mem_keys_flatten_iff.1 hk
    exact (h rule hr).notLogical key hk

/-! ## Several rules -/

section Several

variable {values : List Json} {entry : String × Json}

/-- No rule has options for the pattern of another rule. -/
def OptionsTogether (rules : List (List (String × Json))) : Prop :=
  ∀ rule ∈ rules, ∀ other ∈ rules, "$regex" ∈ Entries.keys rule →
    "$options" ∈ Entries.keys other → rule = other

/-- A key of one rule has the same value in the whole body. -/
theorem get?_flatten (hn : (Entries.keys rules.flatten).Nodup) (hr : rule ∈ rules) {key : String}
    {value : Json} (h : Entries.get? rule key = some value) :
    Entries.get? rules.flatten key = some value :=
  Entries.get?_eq_some_of_mem hn
    (List.mem_flatten.2 ⟨rule, hr, Entries.mem_of_get?_eq_some h⟩)

theorem eq_of_shared_key (hn : (Entries.keys rules.flatten).Nodup) (hr : rule ∈ rules)
    (ho : other ∈ rules) {key : String} (hk : key ∈ Entries.keys rule)
    (hk' : key ∈ Entries.keys other) : rule = other := by
  rw [Entries.keys, List.map_flatten, List.nodup_flatten, List.pairwise_map] at hn
  have : Std.Symm fun rule other : List (String × Json) =>
      (rule.map (·.1)).Disjoint (other.map (·.1)) := ⟨fun _ _ h => h.symm⟩
  by_contra hne
  exact hn.2.forall hr ho hne hk hk'

/-- Where no rule has options for the pattern of another, an operator is decided by its own rule. -/
theorem operator_flatten (hn : (Entries.keys rules.flatten).Nodup) (ht : OptionsTogether rules)
    (hr : rule ∈ rules) (he : entry ∈ rule) :
    operatorsHold values rules.flatten [entry] = operatorsHold values rule [entry] := by
  have hkey : entry.1 ∈ Entries.keys rule := Entries.mem_keys_of_mem he
  refine operator_congr (fun hregex => ?_) (fun hoptions => ?_)
  · cases hg : Entries.get? rule "$options" with
    | some value => exact get?_flatten hn hr hg
    | none =>
      rw [Entries.get?_eq_none_iff] at hg ⊢
      rw [mem_keys_flatten_iff]
      rintro ⟨other, ho, hk⟩
      exact hg (ht rule hr other ho (hregex ▸ hkey) hk ▸ hk)
  · rw [Bool.eq_iff_iff, Entries.contains_iff_mem_keys, Entries.contains_iff_mem_keys,
      mem_keys_flatten_iff]
    constructor
    · rintro ⟨other, ho, hk⟩
      exact ht other ho rule hr hk (hoptions ▸ hkey) ▸ hk
    · exact fun hk => ⟨rule, hr, hk⟩

/-- The joined body asks for one rule after the other. -/
theorem operatorsHold_flatten (hn : (Entries.keys rules.flatten).Nodup)
    (ht : OptionsTogether rules) (values : List Json) :
    operatorsHold values rules.flatten rules.flatten =
      Outcome.all (fun rule => operatorsHold values rule rule) rules := by
  rw [operatorsHold_eq_all_singleton, Outcome.all_flatten]
  refine Outcome.all_congr fun rule hr => ?_
  rw [operatorsHold_eq_all_singleton values rule]
  exact Outcome.all_congr fun entry he => operator_flatten hn ht hr he

/-- A rule with options holds only if it has the pattern, too. -/
theorem mem_keys_regex_of_eq_true (h : operatorsHold values rule rule = .ok true)
    (hk : "$options" ∈ Entries.keys rule) : "$regex" ∈ Entries.keys rule := by
  obtain ⟨operand, hg⟩ := Entries.mem_keys_iff_get?.1 hk
  rw [operatorsHold_eq_all_singleton, Outcome.all_eq_true_iff] at h
  have hoptions := h _ (Entries.mem_of_get?_eq_some hg)
  by_contra hno
  rw [operatorsHold_options values hno] at hoptions
  cases hoptions

theorem optionsTogether_of_forall_eq_true (hn : (Entries.keys rules.flatten).Nodup)
    (h : ∀ rule ∈ rules, operatorsHold values rule rule = .ok true) : OptionsTogether rules :=
  fun _ hr other ho hk hk' =>
    eq_of_shared_key hn hr ho hk (mem_keys_regex_of_eq_true (h other ho) hk')

/-- A rule that fails without looking for a pattern makes the whole body fail or be an error. -/
theorem operatorsHold_flatten_ne_true (hr : rule ∈ rules) (hk : "$regex" ∉ Entries.keys rule)
    (h : operatorsHold values rule rule = .ok false) :
    operatorsHold values rules.flatten rules.flatten ≠ .ok true := by
  rw [operatorsHold_eq_all_singleton] at h ⊢
  obtain ⟨⟨key, operand⟩, he, hfalse⟩ := Outcome.exists_of_all_eq_false h
  have hsame : operatorsHold values rules.flatten [(key, operand)] =
      operatorsHold values rule [(key, operand)] := by
    refine operator_congr (fun hregex => ?_) (fun hoptions => ?_)
    · exact absurd (hregex ▸ Entries.mem_keys_of_mem he) hk
    · subst hoptions
      rw [operatorsHold_options values hk] at hfalse
      cases hfalse
  intro htrue
  rw [Outcome.all_eq_true_iff] at htrue
  have := htrue _ (List.mem_flatten.2 ⟨rule, hr, he⟩)
  rw [hsame, hfalse] at this
  cases this

/-- The joined body holds when each rule does, as long as all rules can be evaluated. -/
theorem operatorsHold_flatten_eq_true_iff (hn : (Entries.keys rules.flatten).Nodup)
    (hev : ∀ rule ∈ rules, Outcome.Evaluates (operatorsHold values rule rule)) :
    operatorsHold values rules.flatten rules.flatten = .ok true ↔
      ∀ rule ∈ rules, operatorsHold values rule rule = .ok true := by
  by_cases ht : OptionsTogether rules
  · rw [operatorsHold_flatten hn ht, Outcome.all_eq_true_iff]
  · refine iff_of_false ?_ fun hall => ht (optionsTogether_of_forall_eq_true hn hall)
    -- Some rule has options and no pattern, so that it can only fail.
    simp only [OptionsTogether, not_forall] at ht
    obtain ⟨rule, hr, other, ho, hk, hk', hne⟩ := ht
    have hno : "$regex" ∉ Entries.keys other := fun h => hne (eq_of_shared_key hn hr ho hk h)
    obtain ⟨holds, hother⟩ := hev other ho
    cases holds with
    | false => exact operatorsHold_flatten_ne_true ho hno hother
    | true => exact absurd (mem_keys_regex_of_eq_true hother hk') hno

end Several

/-! ## An element -/

/-- A rule holds of a value as the only field as it does of an element. -/
theorem holds_rule (h : IsRule rule) {field : String} (hdot : '.' ∉ field.toList)
    (hfield : isOperatorKey field = false) (value : Json) :
    holds (.entry field value) (.entry field (.obj rule)) = operatorsHold [value] rule rule := by
  rw [holds, filterHolds_entry _ hfield, Path.resolve_entry hdot, conditionHolds,
    if_pos h.isOperatorObject]

theorem elementMatches_rule (h : IsRule rule) (element : Json) :
    elementMatches element (.obj rule) = operatorsHold [element] rule rule := by
  rw [elementMatches, if_pos h.isElementCondition]

end Matching

namespace Fragment

open Matching (Outcome IsRule OptionsTogether operatorsHold holds)

variable {rules : List (List (String × Json))}

theorem foldl_insertAll {body : List (String × Json)}
    (hn : (Entries.keys (body ++ rules.flatten)).Nodup) :
    (rules.map Json.obj).foldl
      (fun body rule => Entries.insertAll body (rule.entries?.getD [])) body =
      body ++ rules.flatten := by
  induction rules generalizing body with
  | nil => simp
  | cons rule rest ih =>
    rw [List.flatten_cons, ← List.append_assoc] at hn
    have hbody : (Entries.keys (body ++ rule)).Nodup := by
      rw [Entries.keys, List.map_append] at hn
      exact hn.of_append_left
    have happend : Entries.insertAll body rule = body ++ rule := by
      rw [Entries.keys, List.map_append, List.nodup_append'] at hbody
      exact Entries.insertAll_eq_append hbody.2.1 fun key hk hb => hbody.2.2 hb hk
    rw [List.map_cons, List.foldl_cons, List.flatten_cons, ← List.append_assoc, ← ih hn]
    exact congrArg (List.foldl _ · _) happend

/-- The rules are joined as they are when no key occurs twice. -/
theorem containsElementThat_eq (hn : (Entries.keys rules.flatten).Nodup) :
    containsElementThat (rules.map Json.obj) = envelope (.obj rules.flatten) := by
  rw [containsElementThat, foldl_insertAll hn, List.nil_append]

/-- The joined rules try the elements of all arrays at the path. -/
theorem holds_containsElementThat (hne : rules ≠ []) (h : ∀ rule ∈ rules, IsRule rule)
    (hn : (Entries.keys rules.flatten).Nodup) (document : Json) {path : String}
    (hpath : isOperatorKey path = false) :
    holds document (.entry path (containsElementThat (rules.map Json.obj))) =
      Outcome.any (fun element => operatorsHold [element] rules.flatten rules.flatten)
        ((Path.resolve document path).flatMap Json.elements) := by
  rw [containsElementThat_eq hn, holds, envelope,
    Matching.filterHolds_operator document hpath rfl, Matching.verdict_elemMatch]
  exact Outcome.any_congr fun element _ =>
    Matching.elementMatches_rule (IsRule.flatten hne h) element

/-- Rules ask for one element of an array at the path that satisfies each of them, as long as each
rule alone can be evaluated on all elements. Options that are meant for the pattern of another rule
never hold alone; without such options the filter can be evaluated. -/
theorem containsElementThat_holds_iff (hne : rules ≠ []) (h : ∀ rule ∈ rules, IsRule rule)
    (hn : (Entries.keys rules.flatten).Nodup) {path : String} (hpath : isOperatorKey path = false)
    {field : String} (hdot : '.' ∉ field.toList) (hfield : isOperatorKey field = false)
    {document : Json}
    (hev : ∀ items, .arr items ∈ Path.resolve document path → ∀ value ∈ items, ∀ rule ∈ rules,
      Outcome.Evaluates (holds (.entry field value) (.entry field (.obj rule)))) :
    (holds document (.entry path (containsElementThat (rules.map Json.obj))) = .ok true ↔
      ∃ items, .arr items ∈ Path.resolve document path ∧ ∃ value ∈ items, ∀ rule ∈ rules,
        holds (.entry field value) (.entry field (.obj rule)) = .ok true) ∧
    (OptionsTogether rules →
      Outcome.Evaluates
        (holds document (.entry path (containsElementThat (rules.map Json.obj))))) := by
  have hrule (value : Json) : ∀ rule ∈ rules,
      holds (.entry field value) (.entry field (.obj rule)) = operatorsHold [value] rule rule :=
    fun rule hr => Matching.holds_rule (h rule hr) hdot hfield value
  replace hev : ∀ items, .arr items ∈ Path.resolve document path → ∀ value ∈ items,
      ∀ rule ∈ rules, Outcome.Evaluates (operatorsHold [value] rule rule) :=
    fun items hi value hv rule hr => hrule value rule hr ▸ hev items hi value hv rule hr
  have hbody : OptionsTogether rules → ∀ items, .arr items ∈ Path.resolve document path →
      ∀ value ∈ items,
        Outcome.Evaluates (operatorsHold [value] rules.flatten rules.flatten) := by
    intro ht items hi value hv
    rw [Matching.operatorsHold_flatten hn ht]
    exact Outcome.conjunctive_evaluates.all (hev items hi value hv)
  rw [holds_containsElementThat hne h hn document hpath]
  refine ⟨⟨fun htrue => ?_, ?_⟩, fun ht => ?_⟩
  · obtain ⟨value, hm, hvalue⟩ := Outcome.exists_of_any_eq_true htrue
    obtain ⟨items, hi, hv⟩ := Query.mem_flatMap_elements.1 hm
    rw [Matching.operatorsHold_flatten_eq_true_iff hn (hev items hi value hv)] at hvalue
    exact ⟨items, hi, value, hv, fun rule hr => (hrule value rule hr).trans (hvalue rule hr)⟩
  · rintro ⟨items, hi, value, hv, hall⟩
    replace hall : ∀ rule ∈ rules, operatorsHold [value] rule rule = .ok true :=
      fun rule hr => (hrule value rule hr).symm.trans (hall rule hr)
    -- A single element that satisfies all rules shows that the body is an error on no other.
    have ht := Matching.optionsTogether_of_forall_eq_true hn hall
    refine (Query.any_elements_eq_true_iff (hbody ht)).2 ⟨items, hi, value, hv, ?_⟩
    exact (Matching.operatorsHold_flatten_eq_true_iff hn (hev items hi value hv)).2 hall
  · refine Outcome.any_evaluates fun value hm => ?_
    obtain ⟨items, hi, hv⟩ := Query.mem_flatMap_elements.1 hm
    exact hbody ht items hi value hv

/-- Strings with a line that starts with a letter, but not the letter alone. -/
def lineRules : List (List (String × Json)) :=
  [[("$regex", .str "^b"), ("$options", .str "m")], [("$ne", .str "b")]]

def linesDocument : Json := .entry "lines" (.arr [.str "b", .str "a\nb", .int 3])

theorem lines_containsElementThat_holds_iff :
    (holds linesDocument (.entry "lines" (containsElementThat (lineRules.map Json.obj))) =
        .ok true ↔
      ∃ items, .arr items ∈ Path.resolve linesDocument "lines" ∧ ∃ value ∈ items,
        ∀ rule ∈ lineRules, holds (.entry "line" value) (.entry "line" (.obj rule)) = .ok true) ∧
    Outcome.Evaluates
      (holds linesDocument (.entry "lines" (containsElementThat (lineRules.map Json.obj)))) := by
  have hrules : ∀ rule ∈ lineRules, IsRule rule := by
    simp only [lineRules, List.forall_mem_cons, List.not_mem_nil, false_implies, implies_true,
      and_true]
    exact ⟨⟨by simp, by decide, by decide⟩, ⟨by simp, by decide, by decide⟩⟩
  have hn : (Entries.keys lineRules.flatten).Nodup := by decide
  have hpath : isOperatorKey "lines" = false := rfl
  have hdot : '.' ∉ "line".toList := by decide
  have hev : ∀ items, .arr items ∈ Path.resolve linesDocument "lines" → ∀ value ∈ items,
      ∀ rule ∈ lineRules,
        Outcome.Evaluates (holds (.entry "line" value) (.entry "line" (.obj rule))) := by
    intro items hi
    have hreached : Path.resolve linesDocument "lines" =
        [.arr [.str "b", .str "a\nb", .int 3]] := by cbv
    rw [hreached, List.mem_singleton] at hi
    cases hi
    simp only [lineRules, List.forall_mem_cons, List.not_mem_nil, false_implies, implies_true,
      and_true]
    exact ⟨⟨⟨true, by decide⟩, ⟨false, by decide⟩⟩, ⟨⟨true, by decide⟩, ⟨true, by decide⟩⟩,
      ⟨⟨false, by decide⟩, ⟨true, by decide⟩⟩⟩
  have htogether : OptionsTogether lineRules := by
    simp [OptionsTogether, lineRules, Entries.keys]
  obtain ⟨hiff, hevaluates⟩ :=
    containsElementThat_holds_iff (by simp [lineRules]) hrules hn hpath hdot rfl hev
  exact ⟨hiff, hevaluates htogether⟩

/-- Options that are meant for the pattern of another rule can make the body an error, where each
rule alone can be evaluated. -/
example : holds (.entry "tags" (.arr [.str "a"])) (.entry "tags" (containsElementThat
    [.obj [("$regex", .str "a")], .obj [("$gt", .int 5), ("$options", .str "z")]])) =
      .error (.invalidPattern "a" (.option 'z')) := by
  cbv

end Fragment

end SchemaQuery
