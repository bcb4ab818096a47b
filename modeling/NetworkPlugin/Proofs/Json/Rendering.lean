import NetworkPlugin.Json.Value

/-!
# Rendered values

What is written for a value does not depend on what was written before it.  So a rendered
value is a list of characters that is put together from those of its parts, and its bytes
are those of its characters in order.
-/

namespace NetworkPlugin

/-! ## Bytes of texts -/

namespace Text

def utf8 (text : List Char) : List UInt8 := text.flatMap String.utf8EncodeChar

@[simp] theorem utf8_nil : utf8 [] = [] := rfl

@[simp] theorem utf8_append (text more : List Char) :
    utf8 (text ++ more) = utf8 text ++ utf8 more :=
  List.flatMap_append

theorem utf8_cons (c : Char) (text : List Char) :
    utf8 (c :: text) = String.utf8EncodeChar c ++ utf8 text :=
  List.flatMap_cons

theorem utf8EncodeChar_of_ascii {c : Char} (ascii : c.toNat < 0x80) :
    String.utf8EncodeChar c = [UInt8.ofNat c.toNat] := by
  have small : c.val.toNat ≤ 0x7f := by
    have same : c.val.toNat = c.toNat := rfl
    omega
  unfold String.utf8EncodeChar
  rw [if_pos small]
  rfl

theorem utf8_cons_of_ascii {c : Char} (ascii : c.toNat < 0x80) (text : List Char) :
    utf8 (c :: text) = UInt8.ofNat c.toNat :: utf8 text := by
  rw [utf8_cons, utf8EncodeChar_of_ascii ascii, List.singleton_append]

theorem toList_loop (bytes : ByteArray) (start : Nat) (found : List UInt8) :
    ByteArray.toList.loop bytes start found = found.reverse ++ bytes.data.toList.drop start := by
  have size : bytes.data.toList.length = bytes.size := Array.length_toList
  induction left : bytes.size - start generalizing start found with
  | zero =>
      rw [ByteArray.toList.loop, if_neg (by omega), List.drop_eq_nil_of_le (by omega),
        List.append_nil]
  | succ left ih =>
      have below : start < bytes.data.size := by
        rw [← Array.length_toList]
        omega
      have next : bytes.get! start = bytes.data.toList[start] :=
        getElem!_pos bytes.data start below
      rw [ByteArray.toList.loop, if_pos (by omega), ih _ _ (by omega), List.reverse_cons, next,
        List.append_assoc, List.singleton_append, ← List.drop_eq_getElem_cons]

theorem toList_toUTF8 (text : String) : text.toUTF8.toList = utf8 text.toList := by
  rw [ByteArray.toList, toList_loop, String.toUTF8_eq_toByteArray, ← String.utf8Encode_toList]
  simp [List.utf8Encode, utf8]

theorem fromUTF8?_utf8 (text : String) :
    String.fromUTF8? ⟨(utf8 text.toList).toArray⟩ = some text := by
  have same : (⟨(utf8 text.toList).toArray⟩ : ByteArray) = text.toByteArray := by
    rw [← String.utf8Encode_toList, List.utf8Encode, utf8]
    apply ByteArray.ext
    simp
  rw [same, String.fromUTF8?, dif_pos text.isValidUTF8]
  rfl

end Text

namespace Json

/-! ## Characters of values -/

theorem toList_encodeString (text : String) :
    (encodeString text).toList = '"' :: (text.toList.flatMap encodeChar ++ ['"']) := by
  rw [encodeString, String.toList_ofList, List.cons_append]

mutual

def characters : Json → List Char
  | null => ['n', 'u', 'l', 'l']
  | bool value => (encodeBool value).toList
  | number value => value.render.toList
  | string value => (encodeString value).toList
  | array items => '[' :: (itemCharacters [] items ++ [']'])
  | object members => '\x7b' :: (memberCharacters [] members ++ ['\x7d'])

def itemCharacters (separator : List Char) : List Json → List Char
  | [] => []
  | item :: items => separator ++ characters item ++ itemCharacters [','] items

def memberCharacters (separator : List Char) : List (String × Json) → List Char
  | [] => []
  | (name, item) :: members =>
      separator ++ (encodeString name).toList ++ ':' :: characters item ++
        memberCharacters [','] members

end

mutual

theorem toList_renderTo (written : String) (value : Json) :
    (renderTo written value).toList = written.toList ++ characters value := by
  cases value with
  | null | bool _ | number _ | string _ => simp [renderTo, characters]
  | array items => simp [renderTo, characters, toList_renderItemsTo]
  | object members => simp [renderTo, characters, toList_renderMembersTo]

theorem toList_renderItemsTo (written separator : String) (items : List Json) :
    (renderItemsTo written separator items).toList =
      written.toList ++ itemCharacters separator.toList items := by
  cases items with
  | nil => simp [renderItemsTo, itemCharacters]
  | cons item items =>
      simp [renderItemsTo, itemCharacters, toList_renderItemsTo, toList_renderTo]

theorem toList_renderMembersTo (written separator : String) (members : List (String × Json)) :
    (renderMembersTo written separator members).toList =
      written.toList ++ memberCharacters separator.toList members := by
  cases members with
  | nil => simp [renderMembersTo, memberCharacters]
  | cons member members =>
      simp [renderMembersTo, memberCharacters, toList_renderMembersTo, toList_renderTo]

end

theorem toList_render (value : Json) : (render value).toList = characters value :=
  toList_renderTo "" value

end Json

end NetworkPlugin
