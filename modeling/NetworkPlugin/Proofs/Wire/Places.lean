import NetworkPlugin.Proofs.Wire.Codec
import NetworkPlugin.Wire.Record

/-!
# Places do not matter

A document knows where in the text its parts stand and what is wrong at which place.  All
this is told when something cannot be read, but no value depends on it: a document is read
as the same value when it has forgotten its places, so that a value may be moved in a text.
-/

namespace NetworkPlugin

open Json

namespace Json

def Fault.forgotten : Fault := ⟨.notAValue, 0⟩

namespace Doc

def bareKey (key : Key) : Key := ⟨key.name.mapError fun _ => .forgotten, 0⟩

def bareTail : Tail → Tail
  | .closed _ => .closed 0
  | .broken _ _ => .broken (.same .forgotten) .forgotten

mutual

/-- The document without its places and its faults.  How deep it stands is kept, since a
value may nest only so deep. -/
def bare : Doc → Doc
  | .null _ => .null 0
  | .bool value _ => .bool value 0
  | .number value _ => .number (value.mapError fun _ => .forgotten) 0
  | .string value _ => .string (value.mapError fun _ => .forgotten) 0
  | .array opening items tail => .array ⟨0, opening.level⟩ (bareItems items) (bareTail tail)
  | .object opening members tail =>
      .object ⟨0, opening.level⟩ (bareMembers members) (bareTail tail)
  | .broken _ => .broken (.same .forgotten)

def bareItems : List (Fault × Doc) → List (Fault × Doc)
  | [] => []
  | (_, item) :: items => (.forgotten, bare item) :: bareItems items

def bareMembers : List (Key × Doc) → List (Key × Doc)
  | [] => []
  | (key, item) :: members => (bareKey key, bare item) :: bareMembers members

end

theorem forall₂_bareItems {P : (Fault × Doc) → (Fault × Doc) → Prop} (items : List (Fault × Doc))
    (each : ∀ item ∈ items, P (.forgotten, item.2.bare) item) :
    List.Forall₂ P (bareItems items) items := by
  induction items with
  | nil => exact .nil
  | cons item items ih =>
      rw [List.forall_mem_cons] at each
      exact .cons each.1 (ih each.2)

theorem forall₂_bareMembers {P : (Key × Doc) → (Key × Doc) → Prop} (members : List (Key × Doc))
    (each : ∀ member ∈ members, P (bareKey member.1, member.2.bare) member) :
    List.Forall₂ P (bareMembers members) members := by
  induction members with
  | nil => exact .nil
  | cons member members ih =>
      rw [List.forall_mem_cons] at each
      exact .cons each.1 (ih each.2)

end Doc

end Json

open Doc

theorem Json.Opening.admitted_agree {one other : Opening} (same : one.level = other.level) :
    one.admitted.Agree other.admitted := by
  unfold admitted
  rw [same]
  split
  · exact .refl _
  · exact .error _ _

theorem Json.Doc.ignored_bare (doc : Doc) : doc.bare.ignored.Agree doc.ignored := by
  cases doc with
  | array opening items tail => cases tail <;> first | exact .refl _ | exact .error _ _
  | object opening members tail => cases tail <;> first | exact .refl _ | exact .error _ _
  | broken reason => exact .error _ _
  | _ => exact .refl _

theorem Json.Doc.closed?_bareTail {Value : Type} (tail : Tail) {f g : Nat → Except Fault Value}
    (then_agree : ∀ stop other, (f stop).Agree (g other)) :
    ((bareTail tail).closed? >>= f).Agree (tail.closed? >>= g) := by
  cases tail with
  | closed stop => exact then_agree 0 stop
  | broken reason surplus => exact .error _ _

namespace Codec

variable {Value : Type} {codec : Codec Value}

def Placeless (codec : Codec Value) : Prop := ∀ doc, (codec.read doc.bare).Agree (codec.read doc)

theorem string_placeless : string.Placeless := by
  intro doc
  cases doc with
  | string value stop => exact .mapError _ _
  | _ => exact .error _ _

theorem readInt32_agree (value : Int) (stop other : Nat) :
    (readInt32 value stop).Agree (readInt32 value other) := by
  unfold readInt32
  split
  · exact .refl _
  · exact .error _ _

theorem int32_placeless : int32.Placeless := by
  intro doc
  cases doc with
  | number value stop =>
      cases value with
      | error fault => exact .error _ _
      | ok value =>
          cases value with
          | whole value => exact readInt32_agree _ _ _
          | float => exact .error _ _
  | _ => exact .error _ _

theorem orDefault_placeless (placeless : codec.Placeless) (default : Value) :
    (codec.orDefault default).Placeless := by
  intro doc
  cases doc with
  | null stop => exact .refl _
  | _ => exact placeless _

theorem option_placeless (placeless : codec.Placeless) : codec.option.Placeless := by
  intro doc
  cases doc with
  | null stop => exact .refl _
  | _ => exact (placeless _).map _

theorem list_placeless (placeless : codec.Placeless) : codec.list.Placeless := by
  intro doc
  cases doc with
  | array opening items tail =>
      refine .bind (Opening.admitted_agree rfl) fun _ => .bind ?_ fun _ => ?_
      · exact .mapM (forall₂_bareItems items fun item _ => placeless item.2)
      · exact closed?_bareTail tail fun _ _ => .refl _
  | _ => exact .error _ _

theorem dictionary_placeless (placeless : codec.Placeless) : codec.dictionary.Placeless := by
  intro doc
  cases doc with
  | object opening members tail =>
      refine .bind (Opening.admitted_agree rfl) fun _ => .bind ?_ fun _ => ?_
      · refine .foldlM (forall₂_bareMembers members fun member _ found => ?_) _
        exact .bind (.mapError _ _) fun name => .bind (placeless member.2) fun value => .refl _
      · exact closed?_bareTail tail fun _ _ => .refl _
  | _ => exact .error _ _

theorem readJsonItems_cons (done : List Json) (item : Fault × Doc) (items : List (Fault × Doc)) :
    readJsonItems done (item :: items) =
      readJson item.2 >>= fun value => readJsonItems (value :: done) items := by
  rw [readJsonItems]
  cases readJson item.2 <;> rfl

theorem readJsonMembers_cons (done : List (String × Json)) (member : Key × Doc)
    (members : List (Key × Doc)) :
    readJsonMembers done (member :: members) =
      member.1.name >>= fun name => readJson member.2 >>= fun value =>
        readJsonMembers ((name, value) :: done) members := by
  obtain ⟨⟨name, stop⟩, item⟩ := member
  rw [readJsonMembers]
  cases name with
  | error fault => rfl
  | ok name => cases readJson item <;> rfl

mutual

theorem readJson_bare : (doc : Doc) → (readJson doc.bare).Agree (readJson doc)
  | .null _ | .bool _ _ => .refl _
  | .number value _ => (Except.Agree.mapError value _).map _
  | .string value _ => (Except.Agree.mapError value _).map _
  | .array _ items tail =>
      .bind (Opening.admitted_agree rfl) fun _ => .bind (readJsonItems_bare [] items) fun _ =>
        closed?_bareTail tail fun _ _ => .refl _
  | .object _ members tail =>
      .bind (Opening.admitted_agree rfl) fun _ => .bind (readJsonMembers_bare [] members) fun _ =>
        closed?_bareTail tail fun _ _ => .refl _
  | .broken _ => .error _ _

theorem readJsonItems_bare (done : List Json) : (items : List (Fault × Doc)) →
    (readJsonItems done (bareItems items)).Agree (readJsonItems done items)
  | [] => .refl _
  | (_, item) :: items => by
      rw [bareItems, readJsonItems_cons, readJsonItems_cons]
      exact .bind (readJson_bare item) fun value => readJsonItems_bare (value :: done) items

theorem readJsonMembers_bare (done : List (String × Json)) : (members : List (Key × Doc)) →
    (readJsonMembers done (bareMembers members)).Agree (readJsonMembers done members)
  | [] => .refl _
  | (key, item) :: members => by
      rw [bareMembers, readJsonMembers_cons, readJsonMembers_cons]
      exact .bind (.mapError key.name _) fun name => .bind (readJson_bare item) fun value =>
        readJsonMembers_bare ((name, value) :: done) members

end

theorem json_placeless : json.Placeless := readJson_bare

end Codec

namespace Schema

variable {Record : Type} {schema : Schema Record}

def Placeless (schema : Schema Record) : Prop :=
  ∀ field ∈ schema.fields, ∀ doc, (field.read doc.bare).Agree (field.read doc)

theorem readMember_bare (placeless : schema.Placeless) (progress : Progress Record)
    (member : Key × Doc) :
    (schema.readMember progress (bareKey member.1, member.2.bare)).Agree
      (schema.readMember progress member) := by
  refine .bind (.mapError _ _) fun name => ?_
  split
  · exact .bind (ignored_bare member.2) fun _ => .refl _
  · next field found =>
      split
      · exact .error _ _
      · exact .bind (placeless field (List.mem_of_find?_eq_some found) member.2) fun _ => .refl _

theorem readObject_bare (placeless : schema.Placeless) (members : List (Key × Doc)) (tail : Tail) :
    (schema.readObject (bareMembers members) (bareTail tail)).Agree
      (schema.readObject members tail) := by
  refine .bind ?_ fun progress => closed?_bareTail tail fun _ _ => ?_
  · exact .foldlM (forall₂_bareMembers members fun member _ progress =>
      readMember_bare placeless progress member) _
  · split
    · exact .error _ _
    · exact .refl _

theorem readArray_bare (tail : Tail) {fields : List (Field Record)}
    (placeless : ∀ field ∈ fields, ∀ doc, (field.read doc.bare).Agree (field.read doc))
    (items : List (Fault × Doc)) (record : Record) (count : Nat) :
    (schema.readArray (bareTail tail) record count fields (bareItems items)).Agree
      (schema.readArray tail record count fields items) := by
  induction fields generalizing items record count with
  | nil =>
      refine .bind ?_ fun _ => .refl _
      cases items with
      | nil => cases tail <;> first | exact .refl _ | exact .error _ _
      | cons item items => exact .error _ _
  | cons field fields ih =>
      rw [List.forall_mem_cons] at placeless
      cases items with
      | nil =>
          refine closed?_bareTail tail fun _ _ => ?_
          split
          · exact ih placeless.2 [] record (count + 1)
          · exact .error _ _
      | cons item items =>
          exact .bind (placeless.1 item.2) fun change =>
            ih placeless.2 items (change record) (count + 1)

theorem codec_placeless (placeless : schema.Placeless) : schema.codec.Placeless := by
  intro doc
  cases doc with
  | object opening members tail =>
      exact .bind (Opening.admitted_agree rfl) fun _ => readObject_bare placeless members tail
  | array opening items tail =>
      exact .bind (Opening.admitted_agree rfl) fun _ => readArray_bare tail placeless items _ _
  | _ => exact .error _ _

end Schema

end NetworkPlugin
