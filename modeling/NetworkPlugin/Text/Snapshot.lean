import NetworkPlugin.Text.Quoted

/-!
# Snapshots

A snapshot is the shape of a value as log records show it: words, quoted texts,
lists, maps, records with named fields, and a named wrapper around one of these.
-/

namespace NetworkPlugin

inductive Snapshot where
  | word (text : String)
  | text (content : String)
  | list (items : List Snapshot)
  | map (entries : List (String × Snapshot))
  | record (name : String) (fields : List (String × Snapshot))
  | wrapped (name : String) (content : Snapshot)
  | labelled (name : String) (content : Snapshot)
deriving Inhabited

namespace Snapshot

/-! ## Rendering

Each function appends to the text written so far. -/

mutual

def renderTo (written : String) : Snapshot → String
  | word content => written ++ content
  | text content => written ++ Text.quote content
  | list items => renderItemsTo (written ++ "[") "" items ++ "]"
  | map entries => renderEntriesTo (written ++ "\x7b") "" entries ++ "\x7d"
  | record name [] => written ++ name
  | record name fields =>
      renderFieldsTo (written ++ name ++ " \x7b ") "" fields ++ " \x7d"
  | wrapped name content => renderTo (written ++ name ++ "(") content ++ ")"
  | labelled name content => renderTo (written ++ name ++ " ") content

def renderItemsTo (written separator : String) : List Snapshot → String
  | [] => written
  | item :: items => renderItemsTo (renderTo (written ++ separator) item) ", " items

def renderEntriesTo (written separator : String) : List (String × Snapshot) → String
  | [] => written
  | (key, item) :: entries =>
      renderEntriesTo
        (renderTo (written ++ separator ++ Text.quote key ++ ": ") item) ", " entries

def renderFieldsTo (written separator : String) : List (String × Snapshot) → String
  | [] => written
  | (name, item) :: fields =>
      renderFieldsTo (renderTo (written ++ separator ++ name ++ ": ") item) ", " fields

end

def render (snapshot : Snapshot) : String := renderTo "" snapshot

def option : Option Snapshot → Snapshot
  | none => word "None"
  | some content => wrapped "Some" content

def texts (contents : List String) : Snapshot := list (contents.map text)

end Snapshot

end NetworkPlugin
