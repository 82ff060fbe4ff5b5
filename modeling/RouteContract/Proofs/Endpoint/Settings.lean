import Mathlib.Tactic
import RouteContract.Endpoint.Metadata
import RouteContract.Proofs.Text.Digits

/-!
The two notations for the settings of an endpoint. Every setting can be written as a call chained
behind the registration or as an attribute of the request type; the relations `Chained` and `Noted`
list the forms. Whichever way a list of settings is written, reading it has the effect of its
settings one after the other, so that a later one replaces an earlier one alike in both.

The content type of the success and the status of a response are told apart by what the argument
reads as. A content type that reads as a status declares a response of that status, in both.
-/

namespace RouteContract

open Source (Expr Call Attribute Index TypeExpr Literal Pos)

namespace Metadata

theorem statusOfText?_toString {status : Nat} (h : status < 65536) :
    statusOfText? (toString status) = some status := by
  have hdigits : (toString status).toList = Nat.toDigits 10 status := Nat.toList_repr
  have hsign : (Nat.toDigits 10 status).head? ≠ some '+' := by
    intro hhead
    have hmem := List.mem_of_head? hhead
    exact absurd (Nat.isDigit_of_mem_toDigits (by decide) (by decide) hmem) (by decide)
  simp only [statusOfText?, hdigits]
  split
  · next rest heq => simp [heq] at hsign
  · rw [Text.natOfDigits?_toDigits]
    simp [h]

/-- A text with a character that is not blank. -/
abbrev Words := { text : String // Text.isBlankText text = false }

/-- A type named by a path without arguments. -/
structure TypePath where
  rooted : Bool := false
  owners : List String := []
  name : String

def TypePath.toType (t : TypePath) : TypeExpr :=
  .named { rooted := t.rooted, names := t.owners } t.name false []

def TypePath.toExpr (t : TypePath) : Expr := .path (t.owners ++ [t.name]) []

inductive Setting where
  | anonymous
  | name (text : Words)
  | summary (text : Words)
  | description (text : Words)
  | tags (first : String) (more : List String)
  | accepts (contentType : Words)
  | produces (contentType : Words)
  | response (status : Fin 65536) (type : Option TypePath) (contentType : Option Words)
  | problem (status : Fin 65536) (contentType : Option Words)

def textLiteral (text : String) : Expr := .literal (.text text)

def statusLiteral (status : Fin 65536) (suffix : String) : Expr :=
  .literal (.whole status suffix)

def contentArgument (contentType : Option Words) : List Expr :=
  contentType.toList.map fun text => textLiteral text.1

namespace Setting

/-- The method, the type arguments and the arguments of the calls that a setting is written as. -/
inductive Fluent : Setting → String → List TypeExpr → List Expr → Prop
  | anonymous : Fluent .anonymous "allow_anonymous" [] []
  | name (text : Words) : Fluent (.name text) "with_name" [] [textLiteral text.1]
  | summary (text : Words) : Fluent (.summary text) "with_summary" [] [textLiteral text.1]
  | description (text : Words) :
      Fluent (.description text) "with_description" [] [textLiteral text.1]
  | tag (text : String) : Fluent (.tags text []) "with_tags" [] [textLiteral text]
  | tags (first : String) (more : List String) :
      Fluent (.tags first more) "with_tags" [] [.array ((first :: more).map textLiteral)]
  | accepts (contentType : Words) :
      Fluent (.accepts contentType) "accepts" [] [textLiteral contentType.1]
  | produces (contentType : Words) :
      Fluent (.produces contentType) "produces" [] [textLiteral contentType.1]
  | response (status : Fin 65536) (suffix : String) (type : Option TypePath)
      (contentType : Option Words) :
      Fluent (.response status type contentType) "produces" (type.map TypePath.toType).toList
        (statusLiteral status suffix :: contentArgument contentType)
  | problem (status : Fin 65536) (suffix : String) (contentType : Option Words) :
      Fluent (.problem status contentType) "produces_problem" []
        (statusLiteral status suffix :: contentArgument contentType)

/-- The name and the arguments of the attributes that a setting is written as. -/
inductive Attributed : Setting → String → List Expr → Prop
  | anonymous : Attributed .anonymous "allow_anonymous" []
  | name (text : Words) : Attributed (.name text) "endpoint_name" [textLiteral text.1]
  | summary (text : Words) : Attributed (.summary text) "endpoint_summary" [textLiteral text.1]
  | description (text : Words) :
      Attributed (.description text) "endpoint_description" [textLiteral text.1]
  | tags (first : String) (more : List String) :
      Attributed (.tags first more) "tags" ((first :: more).map textLiteral)
  | accepts (contentType : Words) :
      Attributed (.accepts contentType) "accepts" [textLiteral contentType.1]
  | produces (contentType : Words) :
      Attributed (.produces contentType) "produces" [textLiteral contentType.1]
  | response (status : Fin 65536) (suffix : String) (type : Option TypePath)
      (contentType : Option Words) :
      Attributed (.response status type contentType) "produces"
        (statusLiteral status suffix :: (type.map TypePath.toExpr).toList ++
          contentArgument contentType)
  | problem (status : Fin 65536) (suffix : String) (contentType : Option Words) :
      Attributed (.problem status contentType) "produces_problem"
        (statusLiteral status suffix :: contentArgument contentType)

/-- A call, on any receiver, that a setting is written as. -/
def Chained (s : Setting) (call : Call) : Prop :=
  s.Fluent call.name call.types call.arguments

/-- An attribute that a setting is written as. -/
def Noted (s : Setting) (note : Attribute Expr) : Prop :=
  ∃ name, note.name = some name ∧ s.Attributed name note.arguments

/-- What a setting does to the settings before it. -/
def apply (m : Metadata) : Setting → Metadata
  | anonymous => { m with allowAnonymous := true }
  | name text => { m with operationId := some text.1 }
  | summary text => { m with summary := some text.1 }
  | description text => { m with description := some text.1 }
  | tags first more => { m with tags := some (first :: more) }
  | accepts contentType => { m with requestContentType := some contentType.1 }
  | produces contentType =>
    match statusOfText? contentType.1 with
    | some status => m.declare status none ContentType.json
    | none => { m with responseContentType := some contentType.1 }
  | response status type contentType =>
    m.declare status (type.map (·.name)) ((contentType.map (·.1)).getD ContentType.json)
  | problem status contentType =>
    m.declare status none ((contentType.map (·.1)).getD ContentType.problem)

end Setting

variable (index : Index)

theorem constant?_textLiteral (text : String) : index.constant? (textLiteral text) = some text :=
  rfl

@[simp] theorem textArgument?_textLiteral (text : Words) (more : List Expr) :
    textArgument? index (textLiteral text.1 :: more) 0 = some text.1 := by
  simp [textArgument?, constant?_textLiteral, text.2]

@[simp] theorem textArgument?_succ (e : Expr) (more : List Expr) (i : Nat) :
    textArgument? index (e :: more) (i + 1) = textArgument? index more i := rfl

@[simp] theorem textArgument?_contentArgument (contentType : Option Words) :
    textArgument? index (contentArgument contentType) 0 = contentType.map (·.1) := by
  cases contentType with
  | none => rfl
  | some text => exact textArgument?_textLiteral index text []

@[simp] theorem statusArgument?_textLiteral (text : String) (more : List Expr) :
    statusArgument? index (textLiteral text :: more) 0 = statusOfText? text := rfl

@[simp] theorem statusArgument?_statusLiteral (status : Fin 65536) (suffix : String)
    (more : List Expr) :
    statusArgument? index (statusLiteral status suffix :: more) 0 = some status.1 :=
  statusOfText?_toString status.2

@[simp] theorem textLists_map_textLiteral (texts : List String) :
    textLists index (texts.map textLiteral) = texts := by
  induction texts with
  | nil => rfl
  | cons text texts ih =>
      rw [List.map_cons, textLists, ih]
      rfl

theorem applyCall_of_chained {s : Setting} {call : Call} (h : s.Chained call) (m : Metadata) :
    applyCall index m call = s.apply m := by
  obtain ⟨receiver, name, pos, types, arguments⟩ := call
  rw [Setting.Chained] at h
  cases h with
  | anonymous => rfl
  | name text => simp [applyCall, Setting.apply]
  | summary text => simp [applyCall, Setting.apply]
  | description text => simp [applyCall, Setting.apply]
  | tag text => rfl
  | tags first more =>
      have htags : textLists index [.array ((first :: more).map textLiteral)] = first :: more := by
        rw [textLists, textList, textLists_map_textLiteral, textLists, List.append_nil]
      simp only [applyCall, htags, Setting.apply]
  | accepts contentType => simp [applyCall, Setting.apply]
  | produces contentType =>
      simp only [applyCall, statusArgument?_textLiteral, textArgument?_textLiteral, Setting.apply]
      cases statusOfText? contentType.1 <;> rfl
  | response status suffix type contentType =>
      simp only [applyCall, statusArgument?_statusLiteral, textArgument?_succ,
        textArgument?_contentArgument, Setting.apply]
      cases type <;> rfl
  | problem status suffix contentType => simp [applyCall, Setting.apply]

theorem lastName?_toExpr (t : TypePath) : t.toExpr.lastName? = some t.name :=
  List.getLast?_concat

theorem lastName?_contentArgument (contentType : Option Words) :
    (contentArgument contentType)[0]?.bind Expr.lastName? = none := by
  cases contentType <;> rfl

theorem applyAttribute_of_noted {s : Setting} {note : Attribute Expr} (h : s.Noted note)
    (m : Metadata) : applyAttribute index m note = s.apply m := by
  obtain ⟨_, value, arguments, settings⟩ := note
  obtain ⟨name, rfl, h⟩ := h
  cases h with
  | anonymous => rfl
  | name text => simp [applyAttribute, Setting.apply]
  | summary text => simp [applyAttribute, Setting.apply]
  | description text => simp [applyAttribute, Setting.apply]
  | tags first more =>
      have htags : textLists index (textLiteral first :: more.map textLiteral) = first :: more :=
        textLists_map_textLiteral index (first :: more)
      simp only [applyAttribute, htags, Setting.apply]
  | accepts contentType => simp [applyAttribute, Setting.apply]
  | produces contentType =>
      simp only [applyAttribute, statusArgument?_textLiteral, textArgument?_textLiteral,
        Setting.apply]
      cases statusOfText? contentType.1 <;> rfl
  | response status suffix type contentType =>
      -- Behind a type the content type is the third argument, otherwise the second.
      cases type with
      | none =>
          simp [applyAttribute, lastName?_contentArgument, Setting.apply]
      | some t =>
          simp [applyAttribute, lastName?_toExpr, Setting.apply]
  | problem status suffix contentType => simp [applyAttribute, Setting.apply]

/-- If each part of a text is read as the setting it is written for, the whole is read as all of
them in order. -/
theorem foldl_of_written {α : Type} {Written : Setting → α → Prop}
    (read : Metadata → α → Metadata) (hread : ∀ s x, Written s x → ∀ m, read m x = s.apply m)
    {settings : List Setting} {xs : List α} (h : List.Forall₂ Written settings xs)
    (m : Metadata) :
    xs.foldl read m = settings.foldl Setting.apply m := by
  induction h generalizing m with
  | nil => rfl
  | cons hwritten _ ih => rw [List.foldl_cons, List.foldl_cons, hread _ _ hwritten, ih]

/-- Settings written as chained calls and the same settings written as attributes are read alike,
repeated and overriding ones included: either way they take effect one after the other. -/
theorem ofCalls_eq_ofAttributes (index : Index) {settings : List Setting} {calls : List Call}
    {attributes : List (Attribute Expr)}
    (hcalls : List.Forall₂ Setting.Chained settings calls)
    (hattributes : List.Forall₂ Setting.Noted settings attributes) :
    ofCalls index calls = ofAttributes index attributes ∧
      ofCalls index calls = settings.foldl Setting.apply {} := by
  have hchained : ofCalls index calls = settings.foldl Setting.apply {} :=
    foldl_of_written (applyCall index) (fun _ _ => applyCall_of_chained index) hcalls {}
  have hnoted : ofAttributes index attributes = settings.foldl Setting.apply {} :=
    foldl_of_written (applyAttribute index) (fun _ _ => applyAttribute_of_noted index)
      hattributes {}
  exact ⟨hchained.trans hnoted.symm, hchained⟩

/-- A response declared twice, the second time with a type and a content type, among tags and a
content type that reads as a status. -/
theorem ofCalls_eq_ofAttributes_item :
    let text (s : String) (h : Text.isBlankText s = false) : Words := ⟨s, h⟩
    let item : TypePath := { owners := ["models"], name := "Item" }
    let settings : List Setting :=
      [.response 404 none none, .tags "a" [""], .produces (text "+204" rfl),
        .response 404 (some item) (some (text "text/csv" rfl)), .tags "b" []]
    let call (name : String) (types : List TypeExpr) (arguments : List Expr) : Call :=
      ⟨.path ["routes"] [], name, ⟨1, 0⟩, types, arguments⟩
    let note (name : String) (arguments : List Expr) : Attribute Expr :=
      { name := some name, arguments }
    let calls : List Call :=
      [call "produces" [] [.literal (.whole 404 "u16")],
        call "with_tags" [] [.array [.literal (.text "a"), .literal (.text "")]],
        call "produces" [] [.literal (.text "+204")],
        call "produces" [.named { names := ["models"] } "Item" false []]
          [.literal (.whole 404 ""), .literal (.text "text/csv")],
        call "with_tags" [] [.literal (.text "b")]]
    let attributes : List (Attribute Expr) :=
      [note "produces" [.literal (.whole 404 "")],
        note "tags" [.literal (.text "a"), .literal (.text "")],
        note "produces" [.literal (.text "+204")],
        note "produces" [.literal (.whole 404 ""), .path ["models", "Item"] [],
          .literal (.text "text/csv")],
        note "tags" [.literal (.text "b")]]
    List.Forall₂ Setting.Chained settings calls ∧
      List.Forall₂ Setting.Noted settings attributes ∧
      ∀ index : Index, ofCalls index calls = ofAttributes index attributes ∧
        (ofCalls index calls).responses =
          [(204, ⟨none, ContentType.json⟩), (404, ⟨some "Item", "text/csv"⟩)] := by
  intro text item settings call note calls attributes
  have hcalls : List.Forall₂ Setting.Chained settings calls := by
    refine .cons ?_ (.cons ?_ (.cons ?_ (.cons ?_ (.cons ?_ .nil))))
    · exact .response 404 "u16" none none
    · exact .tags "a" [""]
    · exact .produces (text "+204" rfl)
    · exact .response 404 "" (some item) (some (text "text/csv" rfl))
    · exact .tag "b"
  have hattributes : List.Forall₂ Setting.Noted settings attributes := by
    refine .cons ⟨_, rfl, ?_⟩ (.cons ⟨_, rfl, ?_⟩ (.cons ⟨_, rfl, ?_⟩ (.cons ⟨_, rfl, ?_⟩
      (.cons ⟨_, rfl, ?_⟩ .nil))))
    · exact .response 404 "" none none
    · exact .tags "a" [""]
    · exact .produces (text "+204" rfl)
    · exact .response 404 "" (some item) (some (text "text/csv" rfl))
    · exact .tags "b" []
  refine ⟨hcalls, hattributes, fun index => ?_⟩
  obtain ⟨halike, heffect⟩ := ofCalls_eq_ofAttributes index hcalls hattributes
  refine ⟨halike, ?_⟩
  rw [heffect]
  decide +kernel

end Metadata

end RouteContract
