import VirtualHaibin.Foundation.Canonical

/-!
# Structural equality of JSON values

Two values are the same when they have equal scalars, the same items in order and the same members in
any order, at every level.  The same values with distinct member names have one canonical form, and
so do the parts at the same place and what is left of them without one member.
-/

namespace VirtualHaibin.Foundation

/-! ## Code units -/

namespace Text

def units (c : Char) : List ℕ :=
  if c.toNat < 0x10000 then [c.toNat]
  else [0xD800 + (c.toNat - 0x10000) / 0x400, 0xDC00 + (c.toNat - 0x10000) % 0x400]

theorem toNat_valid (c : Char) : c.toNat < 0xD800 ∨ (0xDFFF < c.toNat ∧ c.toNat < 0x110000) := c.valid

/-- No scalar value is a surrogate, so the first unit tells how many there are. -/
theorem units_selfDelimiting {a b : Char} {r s : List ℕ} (h : units a ++ r = units b ++ s) : a = b ∧ r = s := by
  have ha := toNat_valid a
  have hb := toNat_valid b
  unfold units at h
  split_ifs at h with hsmall hsmall' hsmall' <;>
    simp only [List.cons_append, List.nil_append, List.cons.injEq] at h
  · exact ⟨Char.toNat_inj.1 h.1, h.2⟩
  · omega
  · omega
  · obtain ⟨hhigh, hlow, hrest⟩ := h
    exact ⟨Char.toNat_inj.1 (by omega), hrest⟩

theorem flatMap_units_injective : Function.Injective fun chars : List Char ↦ chars.flatMap units := by
  intro xs ys h
  have hne (c : Char) : units c ≠ [] := by
    unfold units
    split_ifs <;> simp
  induction xs generalizing ys with
  | nil =>
    cases ys with
    | nil => rfl
    | cons y ys => exact absurd (List.append_eq_nil_iff.1 h.symm).1 (hne y)
  | cons x xs ih =>
    cases ys with
    | nil => exact absurd (List.append_eq_nil_iff.1 h).1 (hne x)
    | cons y ys =>
      obtain ⟨rfl, hrest⟩ := units_selfDelimiting h
      rw [ih hrest]

theorem utf16_injective : Function.Injective utf16 := fun _ _ h ↦
  String.toList_injective (flatMap_units_injective h)

end Text

namespace Json

/-- Equal up to the order of object members at every level. -/
inductive Same : Json → Json → Prop
  | null : Same .null .null
  | bool (value : Bool) : Same (.bool value) (.bool value)
  | num (value : Number) : Same (.num value) (.num value)
  | str (value : String) : Same (.str value) (.str value)
  | arr {xs ys : List Json} (items : List.Forall₂ Same xs ys) : Same (.arr xs) (.arr ys)
  | obj {xs ys : List (String × Json)} (members : ∀ name, Option.Rel Same (member xs name) (member ys name)) :
      Same (.obj xs) (.obj ys)

theorem member_cons (name : String) (value : Json) (rest : List (String × Json)) (other : String) :
    member ((name, value) :: rest) other = if name = other then some value else member rest other := by
  unfold member
  rw [List.find?_cons]
  by_cases h : name = other <;> simp [h]

theorem mem_of_member {members : List (String × Json)} {name : String} {value : Json}
    (h : member members name = some value) : (name, value) ∈ members := by
  obtain ⟨entry, hfind, rfl⟩ := Option.map_eq_some_iff.1 h
  have hname : entry.1 = name := by simpa using List.find?_some hfind
  exact hname ▸ List.mem_of_find?_eq_some hfind

theorem member_eq_none {members : List (String × Json)} {name : String} :
    member members name = none ↔ name ∉ members.map Prod.fst := by
  rw [member, Option.map_eq_none_iff, List.find?_eq_none]
  simp only [decide_eq_true_eq, List.mem_map, not_exists, not_and]

theorem member_of_mem {members : List (String × Json)} (hnodup : (members.map Prod.fst).Nodup)
    {name : String} {value : Json} (h : (name, value) ∈ members) : member members name = some value := by
  cases hmember : member members name with
  | none => exact absurd (List.mem_map_of_mem h) (member_eq_none.1 hmember)
  | some other =>
    have heq := List.inj_on_of_nodup_map hnodup (mem_of_member hmember) h rfl
    rw [(Prod.mk.inj heq).2]

mutual

theorem Same.refl : ∀ value : Json, Same value value
  | .null => .null
  | .bool value => .bool value
  | .num value => .num value
  | .str value => .str value
  | .arr items => .arr (Same.refl_items items)
  | .obj members => .obj (Same.refl_members members)

theorem Same.refl_items : ∀ items : List Json, List.Forall₂ Same items items
  | [] => .nil
  | item :: rest => .cons (Same.refl item) (Same.refl_items rest)

theorem Same.refl_members : ∀ (members : List (String × Json)) (name : String),
    Option.Rel Same (member members name) (member members name)
  | [], _ => .none
  | (name, value) :: rest, other => by
    rw [member_cons]
    split
    · exact .some (Same.refl value)
    · exact Same.refl_members rest other

end

/-- The fields of an object that has them and no other member. -/
theorem Same.of_fields {record members : List (String × Json)} (hnodup : (members.map Prod.fst).Nodup)
    (hknown : ∀ name ∈ record.map Prod.fst, name ∈ members.map Prod.fst)
    (hfields : ∀ entry ∈ members, ∃ found, member record entry.1 = some found ∧ Same found entry.2) :
    Same (.obj record) (.obj members) := by
  refine .obj fun name ↦ ?_
  by_cases hname : name ∈ members.map Prod.fst
  · obtain ⟨entry, hentry, rfl⟩ := List.mem_map.1 hname
    obtain ⟨found, hfound, hsame⟩ := hfields entry hentry
    have hmember : member members entry.1 = some entry.2 := member_of_mem hnodup hentry
    rw [hfound, hmember]
    exact .some hsame
  · rw [member_eq_none.2 hname, member_eq_none.2 fun h ↦ hname (hknown name h)]
    exact .none

mutual

/-- No object has two members of one name, as objects of the language do not. -/
def Distinct : Json → Prop
  | .arr items => DistinctItems items
  | .obj members => (members.map Prod.fst).Nodup ∧ DistinctMembers members
  | _ => True

def DistinctItems : List Json → Prop
  | [] => True
  | item :: rest => item.Distinct ∧ DistinctItems rest

def DistinctMembers : List (String × Json) → Prop
  | [] => True
  | (_, value) :: rest => value.Distinct ∧ DistinctMembers rest

end

theorem distinctItems_iff {items : List Json} : DistinctItems items ↔ ∀ item ∈ items, item.Distinct := by
  induction items with
  | nil => simp [DistinctItems]
  | cons item rest ih => simp [DistinctItems, ih]

theorem distinctMembers_iff {members : List (String × Json)} :
    DistinctMembers members ↔ ∀ entry ∈ members, entry.2.Distinct := by
  induction members with
  | nil => simp [DistinctMembers]
  | cons entry rest ih => simp [DistinctMembers, ih]

theorem distinct_obj {members : List (String × Json)} :
    (Json.obj members).Distinct ↔ (members.map Prod.fst).Nodup ∧ ∀ entry ∈ members, entry.2.Distinct := by
  rw [Distinct, distinctMembers_iff]

/-- The order in which members are sorted. -/
def Precedes (a b : String × Json) : Prop := Text.utf16 a.1 ≤ Text.utf16 b.1

instance : DecidableRel Precedes := fun a b ↦ inferInstanceAs (Decidable (Text.utf16 a.1 ≤ Text.utf16 b.1))

instance : Std.Total Precedes := ⟨fun a b ↦ le_total (Text.utf16 a.1) (Text.utf16 b.1)⟩

instance : IsTrans (String × Json) Precedes := ⟨fun _ _ _ ↦ le_trans⟩

/-- Distinct names leave one sorted order. -/
theorem sortMembers_eq_of_perm {xs ys : List (String × Json)} (hperm : xs.Perm ys)
    (hnodup : (xs.map Prod.fst).Nodup) : sortMembers xs = sortMembers ys := by
  refine List.Perm.eq_of_pairwise (fun a b ha hb (hab : Precedes a b) (hba : Precedes b a) ↦ ?_)
    (List.pairwise_insertionSort Precedes xs) (List.pairwise_insertionSort Precedes ys)
    ((sortMembers_perm xs).trans (hperm.trans (sortMembers_perm ys).symm))
  have hname : a.1 = b.1 := Text.utf16_injective (le_antisymm hab hba)
  have ha := (sortMembers_perm xs).subset ha
  have hb := hperm.symm.subset ((sortMembers_perm ys).subset hb)
  exact List.inj_on_of_nodup_map hnodup ha hb hname

/-! ## The canonical form -/

theorem optionRel_iff {α β : Type} {r : α → β → Prop} {x : Option α} {y : Option β} :
    Option.Rel r x y ↔ (x = none ∧ y = none) ∨ ∃ a b, x = some a ∧ y = some b ∧ r a b := by
  constructor
  · rintro (h | -)
    · exact .inr ⟨_, _, rfl, rfl, h⟩
    · exact .inl ⟨rfl, rfl⟩
  · rintro (⟨rfl, rfl⟩ | ⟨a, b, rfl, rfl, h⟩)
    · exact .none
    · exact .some h

theorem Same.value_of_member {xs ys : List (String × Json)}
    (h : ∀ name, Option.Rel Same (member xs name) (member ys name)) {name : String} {value : Json}
    (hvalue : member xs name = some value) : ∃ other, member ys name = some other ∧ Same value other := by
  rcases optionRel_iff.1 (h name) with ⟨hnone, -⟩ | ⟨found, other, hfound, hother, hsame⟩
  · cases hnone.symm.trans hvalue
  · cases hfound.symm.trans hvalue
    exact ⟨other, hother, hsame⟩

theorem Same.value_of_member' {xs ys : List (String × Json)}
    (h : ∀ name, Option.Rel Same (member xs name) (member ys name)) {name : String} {other : Json}
    (hother : member ys name = some other) : ∃ value, member xs name = some value ∧ Same value other := by
  rcases optionRel_iff.1 (h name) with ⟨-, hnone⟩ | ⟨value, found, hvalue, hfound, hsame⟩
  · cases hnone.symm.trans hother
  · cases hfound.symm.trans hother
    exact ⟨value, hvalue, hsame⟩

/-- Members with one structure have the same names. -/
theorem Same.mem_names {xs ys : List (String × Json)}
    (h : ∀ name, Option.Rel Same (member xs name) (member ys name)) {name : String} :
    name ∈ xs.map Prod.fst ↔ name ∈ ys.map Prod.fst := by
  rw [← not_iff_not, ← member_eq_none, ← member_eq_none]
  rcases optionRel_iff.1 (h name) with ⟨hx, hy⟩ | ⟨value, other, hx, hy, -⟩
  · simp [hx, hy]
  · simp [hx, hy]

theorem sizeOf_lt_arr {items : List Json} {item : Json} (h : item ∈ items) : sizeOf item < sizeOf (arr items) := by
  have hlt := List.sizeOf_lt_of_mem h
  rw [arr.sizeOf_spec]
  omega

theorem sizeOf_lt_obj {members : List (String × Json)} {entry : String × Json} (h : entry ∈ members) :
    sizeOf entry.2 < sizeOf (obj members) := by
  have hlt := List.sizeOf_lt_of_mem h
  have hentry : sizeOf entry = 1 + sizeOf entry.1 + sizeOf entry.2 := by
    obtain ⟨name, value⟩ := entry
    rfl
  rw [obj.sizeOf_spec]
  omega

/-- One structure and distinct names make one canonical form. -/
theorem Same.normal_eq (a b : Json) (h : Same a b) (ha : a.Distinct) (hb : b.Distinct) : a.normal = b.normal := by
  cases h with
  | null | bool | num | str => rfl
  | @arr xs ys hitems =>
    have ha := distinctItems_iff.1 ha
    have hb := distinctItems_iff.1 hb
    obtain ⟨hlength, hall⟩ := List.forall₂_iff_get.1 hitems
    rw [normal_arr, normal_arr]
    congr 1
    refine List.ext_getElem (by simpa using hlength) fun i hi hi' ↦ ?_
    simp only [List.length_map] at hi hi'
    simp only [List.getElem_map]
    have hlt := sizeOf_lt_arr (List.getElem_mem hi)
    exact Same.normal_eq xs[i] ys[i] (hall i hi hi') (ha _ (List.getElem_mem hi)) (hb _ (List.getElem_mem hi'))
  | @obj xs ys hmembers =>
    obtain ⟨hxs, ha⟩ := distinct_obj.1 ha
    obtain ⟨hys, hb⟩ := distinct_obj.1 hb
    have hvalue (name : String) (v w : Json) (hv : (name, v) ∈ xs) (hw : (name, w) ∈ ys) (hsame : Same v w) :
        v.normal = w.normal := by
      have hlt := sizeOf_lt_obj hv
      exact Same.normal_eq v w hsame (ha _ hv) (hb _ hw)
    have hnames (members : List (String × Json)) :
        (members.map fun entry ↦ (entry.1, entry.2.normal)).map Prod.fst = members.map Prod.fst := by
      simp
    have hperm : (xs.map fun entry ↦ (entry.1, entry.2.normal)).Perm
        (ys.map fun entry ↦ (entry.1, entry.2.normal)) := by
      refine (List.perm_ext_iff_of_nodup (List.Nodup.of_map Prod.fst ((hnames xs).symm ▸ hxs))
        (List.Nodup.of_map Prod.fst ((hnames ys).symm ▸ hys))).2 fun entry ↦ ⟨fun hentry ↦ ?_, fun hentry ↦ ?_⟩
      · obtain ⟨⟨name, v⟩, hv, rfl⟩ := List.mem_map.1 hentry
        obtain ⟨w, hw, hsame⟩ := Same.value_of_member hmembers (member_of_mem hxs hv)
        rw [hvalue name v w hv (mem_of_member hw) hsame]
        exact List.mem_map_of_mem (mem_of_member hw)
      · obtain ⟨⟨name, w⟩, hw, rfl⟩ := List.mem_map.1 hentry
        obtain ⟨v, hv, hsame⟩ := Same.value_of_member' hmembers (member_of_mem hys hw)
        rw [← hvalue name v w (mem_of_member hv) hw hsame]
        exact List.mem_map_of_mem (mem_of_member hv)
    rw [normal_obj, normal_obj, sortMembers_eq_of_perm hperm (by rwa [hnames])]
termination_by sizeOf a

/-- One canonical form and distinct names make one structure. -/
theorem same_of_normal (a b : Json) (h : a.normal = b.normal) (ha : a.Distinct) (hb : b.Distinct) : Same a b := by
  cases a with
  | null =>
    cases b with
    | null => exact .null
    | _ => simp [normal_arr, normal_obj] at h
  | bool x =>
    cases b with
    | bool y =>
      rw [normal_bool, normal_bool] at h
      exact h ▸ .bool x
    | _ => simp [normal_arr, normal_obj] at h
  | num x =>
    cases b with
    | num y =>
      rw [normal_num, normal_num] at h
      exact h ▸ .num x
    | _ => simp [normal_arr, normal_obj] at h
  | str x =>
    cases b with
    | str y =>
      rw [normal_str, normal_str] at h
      exact h ▸ .str x
    | _ => simp [normal_arr, normal_obj] at h
  | arr xs =>
    cases b with
    | arr ys =>
      have ha := distinctItems_iff.1 ha
      have hb := distinctItems_iff.1 hb
      rw [normal_arr, normal_arr, arr.injEq] at h
      have hlength : xs.length = ys.length := by simpa using congrArg List.length h
      refine .arr (List.forall₂_iff_get.2 ⟨hlength, fun i hi hi' ↦ ?_⟩)
      have hlt := sizeOf_lt_arr (List.getElem_mem hi)
      have hnth : xs[i].normal = ys[i].normal := by
        have hitem := congrArg (fun items ↦ items[i]?) h
        simpa [hi, hi'] using hitem
      exact same_of_normal xs[i] ys[i] hnth (ha _ (List.getElem_mem hi)) (hb _ (List.getElem_mem hi'))
    | _ => simp [normal_arr, normal_obj] at h
  | obj xs =>
    cases b with
    | obj ys =>
      obtain ⟨hxs, ha⟩ := distinct_obj.1 ha
      obtain ⟨hys, hb⟩ := distinct_obj.1 hb
      refine .obj fun name ↦ ?_
      cases hmember : member xs name with
      | none =>
        have habsent := fun hname ↦ member_eq_none.1 hmember ((names_perm_of_normal_obj h).symm.subset hname)
        rw [member_eq_none.2 habsent]
        exact .none
      | some v =>
        have hv := mem_of_member hmember
        have hnormal : (name, v.normal) ∈ xs.map fun entry ↦ (entry.1, entry.2.normal) :=
          List.mem_map.2 ⟨(name, v), hv, rfl⟩
        obtain ⟨⟨other, w⟩, hw, heq⟩ := List.mem_map.1 ((perm_of_normal_obj h).subset hnormal)
        obtain ⟨rfl, hvalue⟩ := Prod.mk.inj heq
        rw [member_of_mem hys hw]
        have hlt := sizeOf_lt_obj hv
        exact .some (same_of_normal v w hvalue.symm (ha _ hv) (hb _ hw))
    | _ => simp [normal_arr, normal_obj] at h
termination_by sizeOf a

/-- The part at a path of member names. -/
def at? : Json → List String → Option Json
  | value, [] => some value
  | .obj members, name :: rest => (member members name).bind fun value ↦ value.at? rest
  | _, _ :: _ => none

/-- A value without one of its members. -/
def without (name : String) : Json → Json
  | .obj members => .obj (members.filter fun entry ↦ entry.1 ≠ name)
  | value => value

theorem Same.at? {a b : Json} (h : Same a b) (path : List String) : Option.Rel Same (a.at? path) (b.at? path) := by
  induction path generalizing a b with
  | nil => exact .some h
  | cons name rest ih =>
    cases h with
    | null | bool | num | str | arr => exact .none
    | obj hmembers =>
      simp only [Json.at?]
      rcases optionRel_iff.1 (hmembers name) with ⟨hnone, hnone'⟩ | ⟨value, other, hvalue, hother, hsame⟩
      · rw [hnone, hnone']
        exact .none
      · rw [hvalue, hother]
        exact ih hsame

theorem Distinct.at? {value part : Json} (h : value.Distinct) {path : List String}
    (hpart : value.at? path = some part) : part.Distinct := by
  induction path generalizing value with
  | nil =>
    cases hpart
    exact h
  | cons name rest ih =>
    cases value with
    | obj members =>
      simp only [Json.at?, Option.bind_eq_some_iff] at hpart
      obtain ⟨inner, hmember, hrest⟩ := hpart
      exact ih ((distinct_obj.1 h).2 _ (mem_of_member hmember)) hrest
    | null | bool | num | str | arr => cases hpart

theorem member_filter_ne (members : List (String × Json)) (name other : String) :
    member (members.filter fun entry ↦ entry.1 ≠ name) other =
      if other = name then none else member members other := by
  unfold member
  rw [List.find?_filter]
  split
  · rename_i hname
    rw [Option.map_eq_none_iff, List.find?_eq_none]
    rintro entry - hentry
    simp_all
  · rename_i hname
    congr 2
    funext entry
    by_cases hother : entry.1 = other <;> simp [hother, hname]

theorem Same.without {a b : Json} (h : Same a b) (name : String) : Same (a.without name) (b.without name) := by
  cases h with
  | null => exact .null
  | bool => exact .bool _
  | num => exact .num _
  | str => exact .str _
  | arr hitems => exact .arr hitems
  | obj hmembers =>
    refine .obj fun other ↦ ?_
    rw [member_filter_ne, member_filter_ne]
    split
    · exact .none
    · exact hmembers other

theorem Distinct.without {value : Json} (h : value.Distinct) (name : String) : (value.without name).Distinct := by
  cases value with
  | null | bool | num | str | arr => exact h
  | obj members =>
    obtain ⟨hnodup, hall⟩ := distinct_obj.1 h
    exact distinct_obj.2 ⟨hnodup.sublist (List.filter_sublist.map _),
      fun entry hentry ↦ hall entry (List.mem_filter.1 hentry).1⟩

/-- The parts at one place have one canonical form, also without one of their members. -/
theorem Same.parts_normal {a b : Json} (h : Same a b) (ha : a.Distinct) (hb : b.Distinct) (path : List String)
    (name : String) :
    Option.Rel (fun part other ↦ part.normal = other.normal ∧ (part.without name).normal = (other.without name).normal)
      (a.at? path) (b.at? path) := by
  rcases optionRel_iff.1 (h.at? path) with ⟨hnone, hnone'⟩ | ⟨part, other, hpart, hother, hsame⟩
  · rw [hnone, hnone']
    exact .none
  · rw [hpart, hother]
    have hpart := ha.at? hpart
    have hother := hb.at? hother
    exact .some ⟨hsame.normal_eq _ _ hpart hother,
      (hsame.without name).normal_eq _ _ (hpart.without name) (hother.without name)⟩

end Json

end VirtualHaibin.Foundation
