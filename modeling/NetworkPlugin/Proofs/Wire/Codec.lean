import NetworkPlugin.Proofs.Dictionary
import NetworkPlugin.Proofs.Except
import NetworkPlugin.Proofs.Json.Levels
import NetworkPlugin.Proofs.Json.Reading
import NetworkPlugin.Wire.Codec

/-!
# Values that return

A codec is steady if every value that it has read returns: what it writes for the value is
read as the value again, inside of as many containers.  All ways to build codecs from
others keep this, so that a codec has it once its parts do.
-/

namespace NetworkPlugin

open Json

namespace Codec

variable {Value : Type} {codec : Codec Value} {level : Nat}

/-- Inside of so many containers, what is written for a value is read as that value. -/
def Returns (codec : Codec Value) (level : Nat) (value : Value) : Prop :=
  ∀ doc, Shows level (codec.write value) doc → codec.read doc = .ok value

/-- Values that were read inside of so many containers return there. -/
def Steady (codec : Codec Value) (level : Nat) : Prop :=
  ∀ doc value, Doc.Placed level doc → codec.read doc = .ok value → codec.Returns level value

/-! ## Scalars -/

theorem string_returns (level : Nat) (value : String) : string.Returns level value := by
  intro doc shows
  cases shows
  rfl

theorem bool_returns (level : Nat) (value : Bool) : bool.Returns level value := by
  intro doc shows
  cases shows
  rfl

theorem int32_returns (level : Nat) (value : Int32) : int32.Returns level value := by
  intro doc shows
  cases shows with
  | number =>
      have bounds : -0x80000000 ≤ value.toInt ∧ value.toInt < 0x80000000 :=
        ⟨value.le_toInt, value.toInt_lt⟩
      change readInt32 value.toInt _ = .ok value
      rw [readInt32, if_pos bounds, Int32.ofInt_toInt]

theorem string_steady (level : Nat) : string.Steady level :=
  fun _ value _ _ => string_returns level value

theorem bool_steady (level : Nat) : bool.Steady level :=
  fun _ value _ _ => bool_returns level value

theorem int32_steady (level : Nat) : int32.Steady level :=
  fun _ value _ _ => int32_returns level value

/-! ## Containers -/

theorem admitted_eq_ok {opening : Opening} {done : Unit} :
    opening.admitted = .ok done ↔ opening.level ≤ deepest := by
  unfold Opening.admitted
  split <;> simp_all

theorem forall₂_read {Item Shown : Type*} {values : List Item} {docs : List Shown}
    {shows : Item → Shown → Prop} {reads : Shown → Item → Prop}
    (shown : List.Forall₂ shows values docs)
    (each : ∀ value ∈ values, ∀ doc, shows value doc → reads doc value) :
    List.Forall₂ reads docs values := by
  have both := (List.forall₂_and_left values docs).mpr ⟨each, shown⟩
  exact (both.imp fun value doc pair => pair.1 doc pair.2).flip

theorem exists_read {Item Result : Type*} {items : List Item} {results : List Result}
    {reads : Item → Result → Prop} (pairs : List.Forall₂ reads items results) {result : Result}
    (member : result ∈ results) : ∃ item ∈ items, reads item result := by
  induction pairs with
  | nil => cases member
  | @cons first found items results here others ih =>
      rcases List.mem_cons.mp member with rfl | later
      · exact ⟨first, List.mem_cons_self, here⟩
      · obtain ⟨item, listed, read⟩ := ih later
        exact ⟨item, List.mem_cons_of_mem _ listed, read⟩

/-! ### Lists -/

theorem readItems_eq_ok {items : List (Fault × Doc)} {values : List Value} :
    codec.readItems items = .ok values ↔
      List.Forall₂ (fun item value => codec.read item.2 = .ok value) items values :=
  Except.mapM_eq_ok

theorem list_returns {values : List Value} (room : level < deepest)
    (returns : ∀ value ∈ values, codec.Returns (level + 1) value) :
    codec.list.Returns level values := by
  intro doc shows
  obtain ⟨start, docs, stop, rfl, shown⟩ := shows.array_inv
  have admitted : Opening.admitted ⟨start, level + 1⟩ = .ok () := admitted_eq_ok.mpr room
  have read : codec.readItems docs = .ok values := by
    rw [ShowsItems, List.forall₂_map_left_iff] at shown
    refine readItems_eq_ok.mpr (forall₂_read shown ?_)
    exact fun value member doc => returns value member doc.2
  simp only [list, admitted, read, Except.ok_bind]
  rfl

theorem list_steady (steady : codec.Steady (level + 1)) : codec.list.Steady level := by
  intro doc values placed read
  cases placed with
  | array opened placed =>
      simp only [list, Except.bind_eq_ok] at read
      obtain ⟨_, admitted, values, items, _, closed, made⟩ := read
      cases made
      rw [admitted_eq_ok, opened] at admitted
      refine list_returns admitted fun value member => ?_
      obtain ⟨item, listed, readHere⟩ := exists_read (readItems_eq_ok.mp items) member
      exact steady item.2 value (placed item listed) readHere
  | null | bool | number | string | object | broken => cases read

/-! ### Dictionaries -/

def ReadsMember (codec : Codec Value) (member : Key × Doc) (pair : String × Value) : Prop :=
  member.1.name = .ok pair.1 ∧ codec.read member.2 = .ok pair.2

theorem readMembers_eq_ok {members : List (Key × Doc)} {found : Dictionary Value} :
    codec.readMembers members = .ok found ↔
      ∃ pairs, List.Forall₂ codec.ReadsMember members pairs ∧
        found = .ofList pairs compare := by
  simp only [readMembers, Std.ExtTreeMap.ofList_eq_foldl]
  generalize (∅ : Dictionary Value) = start
  induction members generalizing start with
  | nil =>
      rw [List.foldlM_nil]
      simp only [List.forall₂_nil_left_iff, exists_eq_left, List.foldl_nil]
      exact ⟨fun same => by cases same; rfl, fun same => by rw [same]; rfl⟩
  | cons member members ih =>
      simp only [List.foldlM_cons, Except.bind_eq_ok, List.forall₂_cons_left_iff]
      constructor
      · rintro ⟨next, ⟨name, named, value, read, made⟩, rest⟩
        cases made
        obtain ⟨pairs, others, rfl⟩ := (ih _).mp rest
        exact ⟨(name, value) :: pairs, ⟨(name, value), pairs, ⟨named, read⟩, others, rfl⟩, rfl⟩
      · rintro ⟨_, ⟨⟨name, value⟩, pairs, ⟨named, read⟩, others, rfl⟩, rfl⟩
        exact ⟨_, ⟨name, named, value, read, rfl⟩, (ih _).mpr ⟨pairs, others, rfl⟩⟩

theorem dictionary_returns {found : Dictionary Value} (room : level < deepest)
    (returns : ∀ (name : String) value, found[name]? = some value →
      codec.Returns (level + 1) value) : codec.dictionary.Returns level found := by
  intro doc shows
  obtain ⟨start, docs, stop, rfl, shown⟩ := shows.object_inv
  have admitted : Opening.admitted ⟨start, level + 1⟩ = .ok () := admitted_eq_ok.mpr room
  have read : codec.readMembers docs = .ok found := by
    rw [ShowsMembers, List.forall₂_map_left_iff] at shown
    refine readMembers_eq_ok.mpr ⟨found.toList, ?_, (Dictionary.ofList_toList found).symm⟩
    refine forall₂_read shown ?_
    rintro ⟨name, value⟩ member doc ⟨named, shows⟩
    have stored := Std.ExtTreeMap.mem_toList_iff_getElem?_eq_some.mp member
    exact ⟨named, returns name value stored doc.2 shows⟩
  simp only [dictionary, admitted, read, Except.ok_bind]
  rfl

theorem dictionary_steady (steady : codec.Steady (level + 1)) :
    codec.dictionary.Steady level := by
  intro doc found placed read
  cases placed with
  | object opened placed =>
      simp only [dictionary, Except.bind_eq_ok] at read
      obtain ⟨_, admitted, found, members, _, closed, made⟩ := read
      cases made
      rw [admitted_eq_ok, opened] at admitted
      refine dictionary_returns admitted fun name value stored => ?_
      obtain ⟨pairs, each, rfl⟩ := readMembers_eq_ok.mp members
      obtain ⟨member, listed, -, readHere⟩ :=
        exists_read each (Dictionary.mem_of_getElem?_ofList stored)
      exact steady member.2 value (placed member listed) readHere
  | null | bool | number | string | array | broken => cases read

/-! ## Missing values -/

def Distinct (codec : Codec Value) : Prop := ∀ value, codec.write value ≠ .null

theorem Distinct.ne_null (distinct : codec.Distinct) {value : Value} {doc : Doc}
    (shows : Shows level (codec.write value) doc) (stop : Nat) : doc ≠ .null stop := by
  rintro rfl
  generalize written : codec.write value = json at shows
  cases shows
  exact distinct value written

theorem orDefault_read_of_ne_null {default : Value} {doc : Doc} (other : ∀ stop, doc ≠ .null stop) :
    (codec.orDefault default).read doc = codec.read doc := by
  cases doc with
  | null stop => exact absurd rfl (other stop)
  | bool | number | string | array | object | broken => rfl

theorem option_read_of_ne_null {doc : Doc} (other : ∀ stop, doc ≠ .null stop) :
    codec.option.read doc = (codec.read doc).map some := by
  cases doc with
  | null stop => exact absurd rfl (other stop)
  | bool | number | string | array | object | broken => rfl

theorem orDefault_returns {default value : Value} (distinct : codec.Distinct)
    (returns : codec.Returns level value) : (codec.orDefault default).Returns level value := by
  intro doc shows
  rw [orDefault_read_of_ne_null (distinct.ne_null shows)]
  exact returns doc shows

theorem orDefault_steady {default : Value} (distinct : codec.Distinct)
    (steady : codec.Steady level) (returns : codec.Returns level default) :
    (codec.orDefault default).Steady level := by
  intro doc value placed read
  refine orDefault_returns distinct ?_
  by_cases null : ∃ stop, doc = .null stop
  · obtain ⟨stop, rfl⟩ := null
    cases read
    exact returns
  · rw [orDefault_read_of_ne_null (not_exists.mp null)] at read
    exact steady doc value placed read

theorem option_returns_none (level : Nat) : codec.option.Returns level none := by
  intro doc shows
  cases shows
  rfl

theorem option_returns_some {value : Value} (distinct : codec.Distinct)
    (returns : codec.Returns level value) : codec.option.Returns level (some value) := by
  intro doc shows
  have written : Shows level (codec.write value) doc := shows
  rw [option_read_of_ne_null (distinct.ne_null written), returns doc written]
  rfl

theorem option_steady (distinct : codec.Distinct) (steady : codec.Steady level) :
    codec.option.Steady level := by
  intro doc found placed read
  by_cases null : ∃ stop, doc = .null stop
  · obtain ⟨stop, rfl⟩ := null
    cases read
    exact option_returns_none level
  · rw [option_read_of_ne_null (not_exists.mp null)] at read
    obtain ⟨value, readHere, rfl⟩ := Except.map_eq_ok.mp read
    exact option_returns_some distinct (steady doc value placed readHere)

theorem string_distinct : string.Distinct := by
  rintro value ⟨⟩

theorem int32_distinct : int32.Distinct := by
  rintro value ⟨⟩

theorem list_distinct (codec : Codec Value) : codec.list.Distinct := by
  rintro values ⟨⟩

theorem dictionary_distinct (codec : Codec Value) : codec.dictionary.Distinct := by
  rintro found ⟨⟩

/-! ## Free-form values -/

theorem readJsonItems_eq_ok {done : List Json} {items : List (Fault × Doc)}
    {values : List Json} :
    readJsonItems done items = .ok values ↔
      ∃ read, List.Forall₂ (fun item value => readJson item.2 = .ok value) items read ∧
        values = done.reverse ++ read := by
  induction items generalizing done with
  | nil => simp [readJsonItems, eq_comm]
  | cons item items ih =>
      obtain ⟨surplus, item⟩ := item
      rw [readJsonItems]
      cases here : readJson item with
      | error fault => simp [List.forall₂_cons_left_iff, here]
      | ok value =>
          simp only [ih, List.forall₂_cons_left_iff, here, Except.ok.injEq]
          constructor
          · rintro ⟨read, others, rfl⟩
            exact ⟨value :: read, ⟨value, read, rfl, others, rfl⟩, by simp⟩
          · rintro ⟨_, ⟨_, read, rfl, others, rfl⟩, rfl⟩
            exact ⟨read, others, by simp⟩

theorem readJsonMembers_eq_ok {done : List (String × Json)} {members : List (Key × Doc)}
    {values : List (String × Json)} :
    readJsonMembers done members = .ok values ↔
      ∃ read, List.Forall₂ json.ReadsMember members read ∧ values = done.reverse ++ read := by
  induction members generalizing done with
  | nil => simp [readJsonMembers, eq_comm]
  | cons member members ih =>
      obtain ⟨⟨name, stop⟩, item⟩ := member
      rw [readJsonMembers]
      cases name with
      | error fault => simp [List.forall₂_cons_left_iff, ReadsMember]
      | ok name =>
          cases here : readJson item with
          | error fault => simp [List.forall₂_cons_left_iff, ReadsMember, json, here]
          | ok value =>
              simp only [ih, List.forall₂_cons_left_iff]
              constructor
              · rintro ⟨read, others, rfl⟩
                exact ⟨(name, value) :: read, ⟨(name, value), read, ⟨rfl, here⟩, others, rfl⟩,
                  by simp⟩
              · rintro ⟨_, ⟨⟨_, _⟩, read, ⟨named, readHere⟩, others, rfl⟩, rfl⟩
                cases named
                cases here.symm.trans readHere
                exact ⟨read, others, by simp⟩

theorem mem_canonicalMembers {members : List (String × Value)} {member : String × Value}
    (listed : member ∈ canonicalMembers members) : member ∈ members := by
  have stored := Std.ExtTreeMap.mem_toList_iff_getElem?_eq_some.mp listed
  exact Dictionary.mem_of_getElem?_ofList stored

theorem canonicalMembers_canonicalMembers (members : List (String × Value)) :
    canonicalMembers (canonicalMembers members) = canonicalMembers members :=
  congrArg Std.ExtTreeMap.toList (Dictionary.ofList_toList (Std.ExtTreeMap.ofList members compare))

theorem json_returns_null (level : Nat) : json.Returns level .null := by
  intro doc shows
  cases shows
  rfl

theorem json_returns_array {values : List Json} (room : level < deepest)
    (returns : ∀ value ∈ values, json.Returns (level + 1) value) :
    json.Returns level (.array values) := by
  intro doc shows
  obtain ⟨start, docs, stop, rfl, shown⟩ := shows.array_inv
  have admitted : Opening.admitted ⟨start, level + 1⟩ = .ok () := admitted_eq_ok.mpr room
  have read : readJsonItems [] docs = .ok values :=
    readJsonItems_eq_ok.mpr
      ⟨values, forall₂_read shown fun value member doc => returns value member doc.2, rfl⟩
  simp only [json, readJson, admitted, read, Except.ok_bind]
  rfl

theorem json_returns_object {members : List (String × Json)} (room : level < deepest)
    (returns : ∀ member ∈ members, json.Returns (level + 1) member.2)
    (canonical : canonicalMembers members = members) :
    json.Returns level (.object members) := by
  intro doc shows
  obtain ⟨start, docs, stop, rfl, shown⟩ := shows.object_inv
  have admitted : Opening.admitted ⟨start, level + 1⟩ = .ok () := admitted_eq_ok.mpr room
  have read : readJsonMembers [] docs = .ok members := by
    refine readJsonMembers_eq_ok.mpr ⟨members, forall₂_read shown ?_, rfl⟩
    exact fun member listed doc both => ⟨both.1, returns member listed doc.2 both.2⟩
  simp only [json, readJson, admitted, read, Except.ok_bind]
  change Except.ok (Json.object (canonicalMembers members)) = _
  rw [canonical]

theorem json_steady (level : Nat) : json.Steady level := by
  intro doc value placed read
  induction placed generalizing value with
  | @null level =>
      cases read
      exact json_returns_null level
  | bool =>
      cases read
      intro doc shows
      cases shows
      rfl
  | number =>
      obtain ⟨number, -, rfl⟩ := Except.map_eq_ok.mp read
      intro doc shows
      cases shows
      rfl
  | string =>
      obtain ⟨text, -, rfl⟩ := Except.map_eq_ok.mp read
      intro doc shows
      cases shows
      rfl
  | @array level opening items tail opened placed ih =>
      simp only [json, readJson, Except.bind_eq_ok] at read
      obtain ⟨_, admitted, values, readItems, _, closed, made⟩ := read
      cases made
      rw [admitted_eq_ok, opened] at admitted
      obtain ⟨read, each, rfl⟩ := readJsonItems_eq_ok.mp readItems
      refine json_returns_array admitted fun value member => ?_
      obtain ⟨item, listed, readHere⟩ := exists_read each member
      exact ih item listed value readHere
  | @object level opening members tail opened placed ih =>
      simp only [json, readJson, Except.bind_eq_ok] at read
      obtain ⟨_, admitted, values, readMembers, _, closed, made⟩ := read
      cases made
      rw [admitted_eq_ok, opened] at admitted
      obtain ⟨read, each, rfl⟩ := readJsonMembers_eq_ok.mp readMembers
      refine json_returns_object admitted (fun member known => ?_)
        (canonicalMembers_canonicalMembers _)
      obtain ⟨item, listed, -, readHere⟩ := exists_read each (mem_canonicalMembers known)
      exact ih item listed member.2 readHere
  | broken => cases read

/-! ## Whole texts -/

/-- A value that returns is decoded from what is written for it, unless that has floats in
it. -/
theorem Returns.decode_render {codec : Codec Value} {value : Value}
    (returns : codec.Returns 0 value) (exact : Exact (codec.write value)) :
    codec.decode (codec.write value).render.toUTF8.toList = .ok value := by
  obtain ⟨root, written, shows⟩ := ofBytes_render exact
  simp only [decode, decodeWith, written, returns root shows, Except.ok_bind]
  rfl

theorem Steady.decode_render {codec : Codec Value} (steady : codec.Steady 0) {text : List UInt8}
    {value : Value} (decoded : codec.decode text = .ok value)
    (exact : Exact (codec.write value)) :
    codec.decode (codec.write value).render.toUTF8.toList = .ok value := by
  unfold decode decodeWith at decoded
  obtain ⟨found, read, behind⟩ := Except.bind_eq_ok.mp decoded
  have same : found = value := by
    split at behind <;> cases behind
    rfl
  subst same
  exact (steady _ found (placed_ofBytes text) read).decode_render exact

end Codec

end NetworkPlugin
