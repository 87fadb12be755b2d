import GraphOffload.Json.Decode
import Mathlib.Data.List.Nodup
import Mathlib.Data.String.Basic
import Mathlib.Tactic.SplitIfs

/-!
# Values and the documents they are read from

A document keeps more than its value does: the order of members, and members given twice. What is read
from a document is canonical, and whatever is canonical is read back from its own document. A record
that was made of members has all of them as its fields, wherever their keys have put them.

## Main definitions

* `GraphOffload.Json.Members.Ascending` : members in the order of their keys, each key once.
* `GraphOffload.Json.Canonical` : values all of whose objects have their members in order.

## Main results

* `GraphOffload.Json.Members.get?_ofList`, `GraphOffload.Json.Members.ofList_eq_self` : putting members
  in order loses none, and leaves those alone that are in order.
* `GraphOffload.Json.Document.canonical_of_value?` : what is read is canonical.
* `GraphOffload.Json.Canonical.value?_toDocument` : what is canonical is read back.
* `GraphOffload.Json.Decoder.fields_ofMembers` : the fields of a record that was made of members.
* `GraphOffload.Json.Decoder.optional_map` : a field that may be left out is read back.
-/

namespace GraphOffload.Json

/-! ### Members in order -/

namespace Members

/-- What is found under a key is in front, or behind. -/
theorem lookup_cons_eq_if {α : Type} (name : String) (held : α) (rest : List (String × α))
    (key : String) :
    List.lookup key ((name, held) :: rest) = if key = name then some held else rest.lookup key := by
  rw [List.lookup_cons]
  by_cases same : key = name
  · rw [if_pos same, beq_iff_eq.mpr same]
  · rw [if_neg same, beq_eq_false_iff_ne.mpr same]

/-- Nothing is found under a key that is missing. -/
theorem lookup_eq_none {α : Type} {members : List (String × α)} {key : String}
    (missing : key ∉ members.map Prod.fst) : members.lookup key = none := by
  rw [List.lookup_eq_none_iff]
  intro member mem
  rw [bne_iff_ne]
  rintro rfl
  exact missing (List.mem_map_of_mem mem)

/-- Adding a member changes what is found under its key, and nothing else. -/
theorem get?_insert (key : String) (value : Json) (members : Members) (other : String) :
    (insert key value members).get? other = if other = key then some value else members.get? other := by
  unfold get?
  induction members with
  | nil => exact lookup_cons_eq_if key value [] other
  | cons first rest ih =>
    obtain ⟨name, held⟩ := first
    rw [insert, lookup_cons_eq_if]
    by_cases before : key < name
    · rw [if_pos before, lookup_cons_eq_if, lookup_cons_eq_if]
    · -- the member is replaced, or the search goes on behind it
      rw [if_neg before]
      by_cases same : key = name
      · rw [if_pos same, lookup_cons_eq_if, ← same]
        by_cases found : other = key <;> simp only [found, if_true, if_false]
      · rw [if_neg same, lookup_cons_eq_if, ih]
        by_cases found : other = name
        · have apart : other ≠ key := fun equal => same (equal.symm.trans found)
          rw [if_pos found, if_pos found, if_neg apart]
        · rw [if_neg found, if_neg found]

/-- **Members with keys of their own are all found** after they have been put in order. -/
theorem get?_ofList {members : List (String × Json)} (distinct : (members.map Prod.fst).Nodup)
    (key : String) : (ofList members).get? key = members.lookup key := by
  -- a member that is still to come hides those of its key that are held
  have onto (held : Members) :
      (members.foldl (fun held member => held.insert member.1 member.2) held).get? key =
        (members.lookup key).or (held.get? key) := by
    induction members generalizing held with
    | nil => rfl
    | cons first rest ih =>
      obtain ⟨only, rest_distinct⟩ := List.nodup_cons.mp distinct
      rw [List.foldl_cons, ih rest_distinct, get?_insert, lookup_cons_eq_if]
      by_cases same : key = first.1
      · rw [if_pos same, if_pos same, same, lookup_eq_none only, Option.none_or, Option.some_or]
      · rw [if_neg same, if_neg same]
  rw [ofList, onto]
  exact Option.or_none

/-- Adding a member adds nothing else. -/
theorem mem_insert {key : String} {value : Json} {members : Members} {member : String × Json}
    (mem : member ∈ insert key value members) : member = (key, value) ∨ member ∈ members := by
  induction members with
  | nil => exact .inl (List.mem_singleton.mp mem)
  | cons first rest ih =>
    obtain ⟨name, held⟩ := first
    rw [insert] at mem
    split_ifs at mem
    · exact List.mem_cons.mp mem
    · exact (List.mem_cons.mp mem).imp_right (List.mem_cons_of_mem _)
    · rcases List.mem_cons.mp mem with rfl | mem
      · exact .inr List.mem_cons_self
      · exact (ih mem).imp_right (List.mem_cons_of_mem _)

/-- Putting members in order adds none. -/
theorem mem_of_mem_ofList {members : List (String × Json)} {member : String × Json}
    (mem : member ∈ ofList members) : member ∈ members := by
  revert mem
  refine List.foldlRecOn (motive := fun held => member ∈ held → member ∈ members) members _
    (fun mem => absurd mem List.not_mem_nil) ?_
  intro held inside added mem_added mem
  rcases mem_insert mem with rfl | mem
  · exact mem_added
  · exact inside mem

/-- Members in the order of their keys, each key once. -/
def Ascending (members : Members) : Prop := members.Pairwise fun member later => member.1 < later.1

/-- The order is kept when a member is added. -/
theorem Ascending.insert {members : Members} (ascending : members.Ascending) (key : String)
    (value : Json) : (members.insert key value).Ascending := by
  induction members with
  | nil => exact List.pairwise_singleton _ _
  | cons first rest ih =>
    obtain ⟨name, held⟩ := first
    obtain ⟨first_lt, rest_ascending⟩ := List.pairwise_cons.mp ascending
    rw [Members.insert]
    split_ifs with before same
    · refine List.pairwise_cons.mpr ⟨?_, ascending⟩
      intro later mem
      rcases List.mem_cons.mp mem with rfl | mem
      · exact before
      · exact String.lt_trans before (first_lt later mem)
    · exact List.pairwise_cons.mpr ⟨same ▸ first_lt, rest_ascending⟩
    · have after : name < key := lt_of_le_of_ne (String.not_lt.mp before) (Ne.symm same)
      refine List.pairwise_cons.mpr ⟨?_, ih rest_ascending⟩
      intro later mem
      rcases mem_insert mem with rfl | mem
      · exact after
      · exact first_lt later mem

/-- Members that have been put in order are in order. -/
theorem ascending_ofList (members : List (String × Json)) : (ofList members).Ascending :=
  List.foldlRecOn (motive := Ascending) members _ List.Pairwise.nil
    fun _ ascending member _ => ascending.insert member.1 member.2

/-- A member whose key comes after all others is put at the end. -/
theorem insert_eq_append {members : Members} {key : String} (after : ∀ member ∈ members, member.1 < key)
    (value : Json) : members.insert key value = members ++ [(key, value)] := by
  induction members with
  | nil => rfl
  | cons first rest ih =>
    obtain ⟨name, held⟩ := first
    obtain ⟨first_lt, rest_lt⟩ := List.forall_mem_cons.mp after
    rw [insert, if_neg (String.lt_asymm first_lt), if_neg (ne_of_gt first_lt), ih rest_lt,
      List.cons_append]

/-- **Members that are in order stay as they are.** -/
theorem ofList_eq_self {members : Members} (ascending : members.Ascending) :
    ofList members = members := by
  have onto (held : Members) (whole : (held ++ members).Ascending) :
      members.foldl (fun held member => held.insert member.1 member.2) held = held ++ members := by
    clear ascending
    induction members generalizing held with
    | nil => exact (List.append_nil held).symm
    | cons first rest ih =>
      have after : ∀ member ∈ held, member.1 < first.1 := fun member mem =>
        (List.pairwise_append.mp whole).2.2 member mem first List.mem_cons_self
      rw [List.append_cons] at whole ⊢
      rw [List.foldl_cons, insert_eq_append after]
      exact ih _ whole
  exact onto [] ascending

end Members

/-! ### Canonical values -/

/-- Values all of whose objects have their members in order. -/
inductive Canonical : Json → Prop
  | null : Canonical .null
  | bool {value : Bool} : Canonical (.bool value)
  | number {value : Number} : Canonical (.number value)
  | string {text : String} : Canonical (.string text)
  | array {items : List Json} (each : ∀ item ∈ items, Canonical item) : Canonical (.array items)
  | object {members : Members} (ascending : members.Ascending)
      (each : ∀ member ∈ members, Canonical member.2) : Canonical (.object members)

mutual

/-- **What is read is canonical.**

**Proof sketch.** Along the reading of values, items and members; an object's members have been put in
order. -/
theorem Document.canonical_of_value? {depth : Document.Depth} {value : Json} :
    ∀ {document : Document}, document.value? depth = some value → value.Canonical
  | .null, read => by
    obtain rfl := Option.some.inj read
    exact .null
  | .bool _, read => by
    obtain rfl := Option.some.inj read
    exact .bool
  | .number _, read => by
    obtain ⟨_, _, rfl⟩ := Option.map_eq_some_iff.mp read
    exact .number
  | .string _, read => by
    obtain ⟨_, _, rfl⟩ := Option.map_eq_some_iff.mp read
    exact .string
  | .array documents, read => by
    simp only [Document.value?, Option.bind_eq_bind, Option.bind_eq_some_iff] at read
    obtain ⟨inner, _, items, items_read, same⟩ := read
    obtain rfl := Option.some.inj same
    exact .array (Document.canonical_of_itemValues? items_read)
  | .object documents, read => by
    simp only [Document.value?, Option.bind_eq_bind, Option.bind_eq_some_iff] at read
    obtain ⟨inner, _, members, members_read, same⟩ := read
    obtain rfl := Option.some.inj same
    exact .object (Members.ascending_ofList members) fun member mem =>
      Document.canonical_of_memberValues? members_read member (Members.mem_of_mem_ofList mem)

/-- So is every item that is read. -/
theorem Document.canonical_of_itemValues? {depth : Document.Depth} {items : List Json} :
    ∀ {documents : List Document}, Document.itemValues? depth documents = some items →
      ∀ item ∈ items, item.Canonical
  | [], read => by
    obtain rfl := Option.some.inj read
    simp
  | document :: documents, read => by
    simp only [Document.itemValues?, Option.bind_eq_bind, Option.bind_eq_some_iff] at read
    obtain ⟨first, first_read, rest, rest_read, same⟩ := read
    obtain rfl := Option.some.inj same
    exact List.forall_mem_cons.mpr ⟨Document.canonical_of_value? first_read,
      Document.canonical_of_itemValues? rest_read⟩

/-- And so is every member. -/
theorem Document.canonical_of_memberValues? {depth : Document.Depth} {members : List (String × Json)} :
    ∀ {documents : List (Option String × Document)},
      Document.memberValues? depth documents = some members → ∀ member ∈ members, member.2.Canonical
  | [], read => by
    obtain rfl := Option.some.inj read
    simp
  | (_, document) :: documents, read => by
    simp only [Document.memberValues?, Option.bind_eq_bind, Option.bind_eq_some_iff] at read
    obtain ⟨key, _, first, first_read, rest, rest_read, same⟩ := read
    obtain rfl := Option.some.inj same
    exact List.forall_mem_cons.mpr ⟨Document.canonical_of_value? first_read,
      Document.canonical_of_memberValues? rest_read⟩

end

/-- The items of an array are read back, if each of them is. -/
theorem itemValues?_itemDocuments {items : List Json}
    (each : ∀ item ∈ items, item.toDocument.value? none = some item) :
    Document.itemValues? none (itemDocuments items) = some items := by
  induction items with
  | nil => rfl
  | cons item rest ih =>
    obtain ⟨first, others⟩ := List.forall_mem_cons.mp each
    simp only [itemDocuments, Document.itemValues?, first, ih others]
    rfl

/-- The members of an object are read back, if each of them is. -/
theorem memberValues?_memberDocuments {members : Members}
    (each : ∀ member ∈ members, member.2.toDocument.value? none = some member.2) :
    Document.memberValues? none (memberDocuments members) = some members := by
  induction members with
  | nil => rfl
  | cons member rest ih =>
    obtain ⟨first, others⟩ := List.forall_mem_cons.mp each
    simp only [memberDocuments, Document.memberValues?, first, ih others]
    rfl

/-- **What is canonical is read back**, however deeply it is nested. -/
theorem Canonical.value?_toDocument {value : Json} (canonical : value.Canonical) :
    value.toDocument.value? none = some value := by
  induction canonical with
  | null | bool | number | string => rfl
  | array _ ih =>
    simp only [toDocument, Document.value?, Document.Depth.enter, itemValues?_itemDocuments ih,
      Option.bind_eq_bind, Option.bind_some]
    rfl
  | object ascending _ ih =>
    simp only [toDocument, Document.value?, Document.Depth.enter, memberValues?_memberDocuments ih,
      ofMembers, Option.bind_eq_bind, Option.bind_some, Members.ofList_eq_self ascending]
    rfl

/-- Only null has the document of null. -/
theorem toDocument_eq_null_iff {value : Json} : value.toDocument = .null ↔ value = .null := by
  cases value <;> simp [toDocument]

/-- Only the document of null is read as null. -/
theorem Document.value?_eq_null_iff {depth : Document.Depth} {document : Document} :
    document.value? depth = some .null ↔ document = .null := by
  cases document <;> simp [value?, ofMembers, Option.bind_eq_some_iff]

/-! ### Records -/

/-- The documents of members, one by one. -/
theorem memberDocuments_eq_map (members : Members) :
    memberDocuments members = members.map fun member => (some member.1, member.2.toDocument) := by
  induction members with
  | nil => rfl
  | cons member rest ih => rw [memberDocuments, ih, List.map_cons]

/-- What is found among members that have been changed one by one. -/
theorem lookup_map_snd {α β : Type} (change : α → β) (members : List (String × α)) (key : String) :
    (members.map fun member => (member.1, change member.2)).lookup key =
      (members.lookup key).map change := by
  induction members with
  | nil => rfl
  | cons first rest ih =>
    rw [List.map_cons, Members.lookup_cons_eq_if, Members.lookup_cons_eq_if, ih]
    by_cases same : key = first.1
    · rw [if_pos same, if_pos same, Option.map_some]
    · rw [if_neg same, if_neg same]

namespace Decoder

variable {α : Type}

/-- Among members with keys of their own, a field that has one name is what is found under it. -/
theorem given_singleton {members : List (String × Document)} (distinct : (members.map Prod.fst).Nodup)
    (name : String) : given [name] members = some (members.lookup name) := by
  have chosen : members.filter (fun member => [name].contains member.1) =
      ((members.lookup name).map (name, ·)).toList := by
    induction members with
    | nil => rfl
    | cons first rest ih =>
      obtain ⟨only, rest_distinct⟩ := List.nodup_cons.mp distinct
      rw [List.filter_cons, Members.lookup_cons_eq_if, ih rest_distinct]
      by_cases same : name = first.1
      · have asked : [name].contains first.1 = true := by
          rw [same, List.contains_cons, beq_self_eq_true, Bool.true_or]
        rw [if_pos asked, if_pos same, same, Members.lookup_eq_none only]
        rfl
      · have passed : ¬[name].contains first.1 = true := by simpa using Ne.symm same
        rw [if_neg passed, if_neg same]
  rw [given, chosen]
  cases members.lookup name <;> rfl

/-- **The fields of a record that was made of members** with names of their own are the members. -/
theorem fields_ofMembers {members : List (String × Json)} (distinct : (members.map Prod.fst).Nodup)
    (names : List String) :
    fields (names.map fun name => [name]) none (ofMembers members).toDocument =
      some (none, names.map fun name => (members.lookup name).map toDocument) := by
  -- the members in the order of the object, which need not be the order of the names
  let documents := (Members.ofList members).map fun member => (member.1, member.2.toDocument)
  have texts : (memberDocuments (Members.ofList members)).mapM
      (fun member => member.1.map (·, member.2)) = some documents := by
    rw [memberDocuments_eq_map, List.mapM_map]
    exact List.mapM_pure
  have ordered : (documents.map Prod.fst).Nodup := by
    rw [List.map_map]
    exact List.pairwise_map.mpr ((Members.ascending_ofList members).imp ne_of_lt)
  have each (name : String) : given [name] documents = some ((members.lookup name).map toDocument) := by
    rw [given_singleton ordered, lookup_map_snd, ← Members.get?_ofList distinct]
    rfl
  have found : (names.map fun name => [name]).mapM (given · documents) =
      some (names.map fun name => (members.lookup name).map toDocument) := by
    simp only [List.mapM_map, Function.comp_def, each]
    exact List.mapM_pure
  simp only [fields, ofMembers, toDocument, Document.Depth.enter, texts, found, Option.bind_eq_bind,
    Option.bind_some]
  rfl

/-- A document other than null is decoded as it is where null may stand for absence. -/
theorem nullable_of_ne_null {decode : Decoder α} {depth : Document.Depth} {document : Document}
    (some_document : document ≠ .null) :
    nullable decode depth document = (decode depth document).map some := by
  cases document with
  | null => exact absurd rfl some_document
  | bool | number | string | array | object => rfl

/-- **A field that may be left out is read back**, if what it holds is, and is not null, which would mean
absence. -/
theorem optional_map {decode : Decoder α} {encode : α → Document} {field : Option α}
    (held : ∀ value ∈ field, encode value ≠ .null ∧ decode none (encode value) = some value) :
    optional decode none (field.map encode) = some field := by
  cases field with
  | none => rfl
  | some value =>
    obtain ⟨some_document, decoded⟩ := held value rfl
    rw [Option.map_some, optional, defaulted, nullable_of_ne_null some_document, decoded,
      Option.map_some]

/-- What a field that may be left out holds was decoded from a document other than null. -/
theorem exists_of_optional {decode : Decoder α} {depth : Document.Depth} {field : Option Document}
    {value : α} (decoded : optional decode depth field = some (some value)) :
    ∃ document, document ≠ .null ∧ decode depth document = some value := by
  cases field with
  | none => exact nomatch decoded
  | some document =>
    by_cases null : document = .null
    · subst null
      exact nomatch decoded
    · rw [optional, defaulted, nullable_of_ne_null null] at decoded
      obtain ⟨_, found, same⟩ := Option.map_eq_some_iff.mp decoded
      exact ⟨document, null, Option.some.inj same ▸ found⟩

end Decoder

end GraphOffload.Json
