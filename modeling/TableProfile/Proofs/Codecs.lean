import Mathlib.Data.List.Forall2
import TableProfile.Proofs.WrittenText

/-!
# What codecs give back

A value that is encoded and decoded again comes back as `Codec.recode` says:
the value itself, another one, or a fault. Flags, texts and whole numbers that
fit come back as they are. A list comes back if each of its items does, a
value that may be missing comes back if it is there and does or if it is not,
and a record is what its fields give back, put in one after the other
(`RecordType.recode_eq`).

Nothing of this is about text any more. Floats are the only values that can
come back as another, or not at all.
-/

namespace TableProfile.Json

open Number

/-! ## Scalars -/

namespace Codec

/-- **What comes back of a value** that is encoded and decoded. -/
def recode {α : Type} (codec : Codec α) (a : α) : Except Fault α :=
  codec.decode (codec.encode a).tree

theorem recode_flag (b : Bool) : flag.recode b = .ok b :=
  rfl

theorem recode_text (s : String) : text.recode s = .ok s :=
  congrArg Except.ok String.ofList_toList

theorem recode_integer {least greatest n : Int} (within : least ≤ n ∧ n ≤ greatest)
    (fits : -int64Limit ≤ n) (fits' : n < UInt64.size) :
    (integer least greatest).recode n = .ok n := by
  have hquantity := quantity?_integerLiteral fits fits'
  show (integer least greatest).decode (.number (integerLiteral n)) = _
  unfold integer
  dsimp only
  rw [hquantity]
  exact if_pos within

theorem recode_int64 {n : Int} (fits : IsInt64 n) : int64.recode n = .ok n := by
  have hbound : int64Limit ≤ (UInt64.size : Int) := by decide
  obtain ⟨hleast, hgreatest⟩ := fits
  refine recode_integer ⟨hleast, ?_⟩ hleast (by omega)
  omega

theorem recode_natural {n : Nat} (fits : n < UInt64.size) :
    (integer 0 (UInt64.size - 1)).recode n = .ok (n : Int) := by
  have hlimit : -int64Limit ≤ 0 := by decide
  exact recode_integer ⟨Int.natCast_nonneg n, by omega⟩ (by omega) (by omega)

theorem recode_nat64 {n : Nat} (fits : n < UInt64.size) : nat64.recode n = .ok n := by
  show ((integer 0 (UInt64.size - 1)).recode n).map Int.toNat = _
  rw [recode_natural fits]
  rfl

/-! ## Values in others -/

/-- A value that is there comes back as itself does, unless it is written as no
value. -/
theorem recode_optional_some {α : Type} {codec : Codec α} {a : α}
    (there : (codec.encode a).tree ≠ .null) :
    (optional codec).recode (some a) = (codec.recode a).map some := by
  unfold recode
  show (optional codec).decode (codec.encode a).tree = _
  unfold optional
  dsimp only
  split
  · rename_i hnull
    exact absurd hnull there
  · rfl

/-- **A value that may be missing comes back** if it does when it is there. -/
theorem recode_optional {α : Type} {codec : Codec α} {o : Option α} {f : α → α}
    (there : ∀ a, (codec.encode a).tree ≠ .null) (h : ∀ a ∈ o, codec.recode a = .ok (f a)) :
    (optional codec).recode o = .ok (o.map f) := by
  cases o with
  | none => rfl
  | some a =>
    rw [recode_optional_some (there a), h a rfl]
    rfl

/-- **A list comes back item by item.** -/
theorem recode_list_eq_mapM {α : Type} (codec : Codec α) (items : List α) :
    (list codec).recode items = items.mapM codec.recode := by
  show decodeItems codec.decode (itemsTree (items.map codec.encode)) = _
  induction items with
  | nil => rfl
  | cons a rest ih =>
    rw [List.mapM_cons, ← ih]
    rfl

theorem recode_list {α : Type} {codec : Codec α} {items : List α} {f : α → α}
    (h : ∀ a ∈ items, codec.recode a = .ok (f a)) :
    (list codec).recode items = .ok (items.map f) := by
  rw [recode_list_eq_mapM]
  induction items with
  | nil => rfl
  | cons a rest ih =>
    rw [List.mapM_cons, h a List.mem_cons_self, ih fun b hb => h b (List.mem_cons_of_mem a hb)]
    rfl

end Codec

/-! ## Records -/

/-- **A field comes back** as a change of the record that it is put into. -/
def Field.ComesBack {α : Type} (field : Field α) (a : α) (change : α → α) : Prop :=
  ∀ b, field.decode b (field.encode a).tree = .ok (change b)

section Fields

variable {α β : Type} {codec : Codec β} {get : α → β} {a : α} {x : β}

/-- A field comes back if its value does. -/
theorem Field.comesBack_of (h : codec.recode (get a) = .ok x) (name : String)
    (put : α → β → α) : (Field.of name codec get put).ComesBack a (put · x) := by
  intro b
  show (codec.recode (get a)).map (put b) = _
  rw [h]
  rfl

theorem Field.comesBack_optional (h : codec.recode (get a) = .ok x) (name : String)
    (put : α → β → α) : (Field.optional name codec get put).ComesBack a (put · x) :=
  Field.comesBack_of h name put

end Fields

namespace RecordType

variable {α : Type} {type : RecordType α}

/-- The field of a name, where names differ. -/
theorem field?_name (distinct : (type.fields.map (·.name)).Nodup) {done rest : List (Field α)}
    {field : Field α} (h : type.fields = done ++ field :: rest) :
    type.field? field.name.toList = some field := by
  rw [h, List.map_append, List.map_cons, List.nodup_append] at distinct
  unfold field?
  rw [h, List.find?_append]
  have hdone : done.find? (·.name.toList == field.name.toList) = none := by
    refine List.find?_eq_none.mpr fun other hother hname => ?_
    refine distinct.2.2 other.name (List.mem_map_of_mem hother) field.name List.mem_cons_self ?_
    exact String.toList_inj.mp (eq_of_beq hname)
  rw [hdone, Option.none_or, List.find?_cons_of_pos]
  exact beq_self_eq_true field.name.toList

/-- **The members that are left** are read as the fields that are left. -/
theorem decodeMembers_eq_foldlM (distinct : (type.fields.map (·.name)).Nodup) (a : α)
    {done rest : List (Field α)} (h : type.fields = done ++ rest) (b : α) :
    type.decodeMembers (done.map (·.name)).reverse b
        (membersTree (rest.map fun field => (field.name, field.encode a)))
      = rest.foldlM (fun b field => field.decode b (field.encode a).tree) b := by
  induction rest generalizing done b with
  | nil =>
    refine if_pos (List.all_eq_true.mpr fun field hfield => ?_)
    rw [h, List.append_nil] at hfield
    rw [Bool.or_eq_true, List.contains_iff_mem, List.mem_reverse]
    exact Or.inr (List.mem_map_of_mem hfield)
  | cons field rest ih =>
    have hnew : (done.map (·.name)).reverse.contains field.name = false := by
      rw [h, List.map_append, List.map_cons, List.nodup_append] at distinct
      rw [← Bool.not_eq_true, List.contains_iff_mem, List.mem_reverse]
      exact fun hmem => distinct.2.2 _ hmem _ List.mem_cons_self rfl
    rw [List.foldlM_cons]
    show type.decodeMembers _ b (.member (some field.name.toList) (field.encode a).tree _) = _
    unfold decodeMembers
    rw [field?_name distinct h]
    dsimp only
    rw [hnew, if_neg Bool.false_ne_true]
    refine congrArg _ (funext fun b => ?_)
    have hnext := ih (h.trans (List.append_cons _ _ _)) b
    rwa [List.map_append, List.reverse_append] at hnext

/-- **A record is what its fields give back**, put in one after the other. -/
theorem recode_eq (distinct : (type.fields.map (·.name)).Nodup) (a : α) :
    type.codec.recode a
      = type.fields.foldlM (fun b field => field.decode b (field.encode a).tree) type.blank :=
  decodeMembers_eq_foldlM distinct a (List.nil_append _).symm type.blank

/-- **A record comes back** if its fields do. -/
theorem recode_of_comesBack (distinct : (type.fields.map (·.name)).Nodup) {a : α}
    {changes : List (α → α)} (h : List.Forall₂ (·.ComesBack a ·) type.fields changes) :
    type.codec.recode a = .ok (changes.foldl (fun b change => change b) type.blank) := by
  rw [recode_eq distinct]
  generalize type.blank = b, type.fields = fields at h ⊢
  induction h generalizing b with
  | nil => rfl
  | cons hfield _ ih =>
    rw [List.foldlM_cons, hfield b]
    exact ih _

end RecordType

/-! ## Members in any order -/

/-- The members of a record, by their keys. -/
def Members.ofList : List (String × Tree) → Members
  | [] => .closed
  | (key, value) :: rest => .member (some key.toList) value (ofList rest)

/-- What is written of members has their keys and the trees of their values. -/
theorem ofList_map_tree (members : List (String × Value)) :
    Members.ofList (members.map fun member => (member.1, member.2.tree)) = membersTree members := by
  induction members with
  | nil => rfl
  | cons member rest ih => exact congrArg (Members.member _ _) ih

/-- Members are passed over if each of their values is. -/
theorem skipFault?_ofList_eq_none_iff {members : List (String × Tree)} :
    (Members.ofList members).skipFault? = none
      ↔ ∀ member ∈ members, member.2.skipFault? = none := by
  induction members with
  | nil => exact iff_of_true rfl (List.forall_mem_nil _)
  | cons member rest ih =>
    rw [List.forall_mem_cons, ← ih]
    exact Option.or_eq_none_iff

namespace RecordType

variable {α : Type} {type : RecordType α}

/-- The names of the fields. -/
def names (type : RecordType α) : List String :=
  type.fields.map (·.name)

/-- The field of a key has that key. -/
theorem field?_of_mem {key : String} (h : key ∈ type.names) :
    ∃ field ∈ type.fields, field.name = key ∧ type.field? key.toList = some field := by
  obtain ⟨field, hfield, rfl⟩ := List.mem_map.mp h
  have hsome : (type.field? field.name.toList).isSome :=
    List.find?_isSome.mpr ⟨field, hfield, beq_self_eq_true _⟩
  obtain ⟨found, hfound⟩ := Option.isSome_iff_exists.mp hsome
  have hname := eq_of_beq (List.find?_eq_some_iff_append.mp hfound).1
  exact ⟨found, List.mem_of_find?_eq_some hfound, String.toList_inj.mp hname, hfound⟩

/-- An unknown key has no field. -/
theorem field?_of_not_mem {key : String} (h : key ∉ type.names) : type.field? key.toList = none :=
  List.find?_eq_none.mpr fun _ hfield hname =>
    h (String.toList_inj.mp (eq_of_beq hname) ▸ List.mem_map_of_mem hfield)

/-- **Members are put in one after the other**, where every field may be left
out and no known key comes twice. A member with an unknown key changes
nothing, if its value can be passed over. -/
theorem decodeMembers_ofList (optional : ∀ field ∈ type.fields, field.required = false)
    (change : String → α → α) {members : List (String × Tree)} {seen : List String}
    (once : (seen ++ (members.map (·.1)).filter (· ∈ type.names)).Nodup)
    (known : ∀ member ∈ members, ∀ field ∈ type.fields, field.name = member.1 →
      ∀ a, field.decode a member.2 = .ok (change member.1 a))
    (unknown : ∀ member ∈ members, member.1 ∉ type.names →
      member.2.skipFault? = none ∧ ∀ a, change member.1 a = a) (a : α) :
    type.decodeMembers seen a (.ofList members)
      = .ok (members.foldl (fun a member => change member.1 a) a) := by
  induction members generalizing seen a with
  | nil =>
    refine if_pos (List.all_eq_true.mpr fun field hfield => ?_)
    rw [optional field hfield]
    rfl
  | cons member rest ih =>
    obtain ⟨key, value⟩ := member
    have hknown := fun other hother => known other (List.mem_cons_of_mem (key, value) hother)
    have hunknown := fun other hother => unknown other (List.mem_cons_of_mem (key, value) hother)
    rw [List.foldl_cons, Members.ofList, decodeMembers]
    by_cases hkey : key ∈ type.names
    · obtain ⟨field, hfield, hname, hfound⟩ := field?_of_mem hkey
      have hkept : (((key, value) :: rest).map (·.1)).filter (· ∈ type.names)
          = key :: (rest.map (·.1)).filter (· ∈ type.names) :=
        List.filter_cons_of_pos (decide_eq_true hkey)
      rw [hkept] at once
      have hnew : seen.contains field.name = false := by
        rw [← Bool.not_eq_true, List.contains_iff_mem, hname]
        exact fun hseen => (List.nodup_append.mp once).2.2 _ hseen _ List.mem_cons_self rfl
      rw [hfound]
      dsimp only
      rw [hnew, if_neg Bool.false_ne_true,
        known (key, value) List.mem_cons_self field hfield hname a, hname]
      exact ih (List.perm_middle.nodup once) hknown hunknown (change key a)
    · obtain ⟨hskip, hsame⟩ := unknown (key, value) List.mem_cons_self hkey
      have hdropped : (((key, value) :: rest).map (·.1)).filter (· ∈ type.names)
          = (rest.map (·.1)).filter (· ∈ type.names) :=
        List.filter_cons_of_neg (mt of_decide_eq_true hkey)
      rw [hdropped] at once
      rw [field?_of_not_mem hkey]
      dsimp only
      rw [hskip, hsame]
      exact ih once hknown hunknown a

end RecordType

end TableProfile.Json
