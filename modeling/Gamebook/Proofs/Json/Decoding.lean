import Gamebook.Json.Decoder
import Gamebook.Proofs.Failing
import Gamebook.Proofs.Json.Rereading

/-!
# Decoding what was written

A decoder `Decodes` a tree to a result if it gives that result for every node that shows the tree,
and none where reading stopped inside. The decoders in use do so for the trees that are written for
them. Values come back as `Value.reread` says: floats reread, what is not
finite as nothing, records sorted.

* `Json.decodes_value` : values.
* `Json.decodes_list`, `Json.decodes_map`, `Json.decodes_record` : lists, maps, and records with
  fixed field names.
* `Json.decode_written` : decoding a text that was written.
-/

namespace Gamebook

open Json (Node Decoded Shape Malformation Mark Shows ShowsItems ShowsMembers)

/-! ## Values -/

namespace Value

mutual

/-- The value that comes back when it is written as JSON text and read again. -/
def reread : Value → Value
  | .number x => if x.isFinite then .number ((Json.rereadNumber x).getD x) else .nil
  | .list items => .list (rereadItems items)
  | .record fields => .record (Fields.sorted (rereadFields fields))
  | v => v

/-- The items of a list that comes back. -/
def rereadItems : List Value → List Value
  | [] => []
  | v :: rest => reread v :: rereadItems rest

/-- The fields of a record that comes back, in the order in which they are written. -/
def rereadFields : List (String × Value) → List (String × Value)
  | [] => []
  | (key, v) :: rest => (key, reread v) :: rereadFields rest

end

theorem rereadFields_eq_map (fields : List (String × Value)) :
    rereadFields fields = fields.map (fun entry => (entry.1, entry.2.reread)) := by
  induction fields with
  | nil => rfl
  | cons entry rest ih => rw [rereadFields, ih, List.map_cons]

end Value

namespace Json

theorem ofFields_eq_map (fields : List (String × Value)) :
    ofFields fields = fields.map (fun entry => (entry.1, ofValue entry.2)) := by
  induction fields with
  | nil => rfl
  | cons entry rest ih => rw [ofFields, ih, List.map_cons]

mutual

theorem fits_ofValue : ∀ v : Value, (ofValue v).Fits
  | .nil => .null
  | .bool b => .bool b
  | .int n => by
    have hlow := n.le_toInt
    have hhigh := n.toInt_lt
    exact .int (by omega) (by omega)
  | .number x => .number x
  | .text s => .text s
  | .list items => .array (fits_ofItems items)
  | .record fields => .object (fits_ofFields fields)

theorem fits_ofItems : ∀ (items : List Value), ∀ item ∈ ofItems items, item.Fits
  | [] => by rintro item ⟨⟩
  | v :: rest => by
    intro item h
    rcases List.mem_cons.mp h with rfl | h
    · exact fits_ofValue v
    · exact fits_ofItems rest item h

theorem fits_ofFields : ∀ (fields : List (String × Value)), ∀ entry ∈ ofFields fields, entry.2.Fits
  | [] => by rintro entry ⟨⟩
  | (key, v) :: rest => by
    intro entry h
    rcases List.mem_cons.mp h with rfl | h
    · exact fits_ofValue v
    · exact fits_ofFields rest entry h

end

mutual

/-- A node that shows the tree of a value holds what comes back of the value, if it holds one. -/
theorem value_of_shows : ∀ (v : Value) {whole : Bool} {node : Node} {w : Value},
    Shows whole (ofValue v) node → node.value = .ok w → whole = true ∧ w = v.reread
  | .nil, whole, node, w, h, hw => by
    cases h with
    | broken => cases hw
    | null => cases hw; exact ⟨rfl, rfl⟩
  | .bool b, whole, node, w, h, hw => by
    cases h with
    | broken => cases hw
    | bool => cases hw; exact ⟨rfl, rfl⟩
  | .int n, whole, node, w, h, hw => by
    cases h with
    | broken => cases hw
    | int =>
      have hlow := n.le_toInt
      have hhigh := n.toInt_lt
      rw [Node.value, if_pos ⟨by omega, by omega⟩, Int64.ofInt_toInt] at hw
      cases hw
      exact ⟨rfl, rfl⟩
  | .number x, whole, node, w, h, hw => by
    cases h with
    | broken => cases hw
    | number hx hy =>
      cases hw
      exact ⟨rfl, by rw [Value.reread, if_pos hx, hy, Option.getD_some]⟩
    | notFinite hx =>
      cases hw
      exact ⟨rfl, by rw [Value.reread, if_neg (by simp [hx])]⟩
  | .text s, whole, node, w, h, hw => by
    cases h with
    | broken => cases hw
    | text => cases hw; exact ⟨rfl, rfl⟩
  | .list items, whole, node, w, h, hw => by
    cases h with
    | broken => cases hw
    | @array _ _ nodes cut h =>
      obtain ⟨values, hvalues, hw⟩ := bind_ok hw
      cases cut with
      | some fault => cases hw
      | none =>
        obtain ⟨rfl, rfl⟩ := itemValues_of_shows items h hvalues
        exact ⟨rfl, (Except.ok.inj hw).symm⟩
  | .record fields, whole, node, w, h, hw => by
    cases h with
    | broken => cases hw
    | @object _ _ nodes cut h =>
      obtain ⟨values, hvalues, hw⟩ := bind_ok hw
      cases cut with
      | some fault => cases hw
      | none =>
        obtain ⟨rfl, rfl⟩ := memberValues_of_shows fields h hvalues
        exact ⟨rfl, (Except.ok.inj hw).symm⟩

theorem itemValues_of_shows : ∀ (items : List Value) {whole : Bool} {nodes : List Node}
    {values : List Value}, ShowsItems whole (ofItems items) nodes none →
    itemValues nodes = .ok values → whole = true ∧ values = Value.rereadItems items
  | [], whole, nodes, values, h, hv => by
    cases h with
    | nil => cases hv; exact ⟨rfl, rfl⟩
  | v :: rest, whole, nodes, values, h, hv => by
    cases h with
    | stop h =>
      obtain ⟨w, hw, -⟩ := bind_ok hv
      exact absurd (value_of_shows v h hw).1 Bool.false_ne_true
    | cons h hrest =>
      obtain ⟨w, hw, hv⟩ := bind_ok hv
      obtain ⟨values, hvalues, hv⟩ := bind_ok hv
      obtain ⟨-, rfl⟩ := value_of_shows v h hw
      obtain ⟨rfl, rfl⟩ := itemValues_of_shows rest hrest hvalues
      exact ⟨rfl, (Except.ok.inj hv).symm⟩

theorem memberValues_of_shows : ∀ (fields : List (String × Value)) {whole : Bool}
    {nodes : List (String × Mark × Node)} {values : List (String × Value)},
    ShowsMembers whole (ofFields fields) nodes none → memberValues nodes = .ok values →
    whole = true ∧ values = Value.rereadFields fields
  | [], whole, nodes, values, h, hv => by
    cases h with
    | nil => cases hv; exact ⟨rfl, rfl⟩
  | (key, v) :: rest, whole, nodes, values, h, hv => by
    cases h with
    | stop h =>
      obtain ⟨w, hw, -⟩ := bind_ok hv
      exact absurd (value_of_shows v h hw).1 Bool.false_ne_true
    | cons mark h hrest =>
      obtain ⟨w, hw, hv⟩ := bind_ok hv
      obtain ⟨values, hvalues, hv⟩ := bind_ok hv
      obtain ⟨-, rfl⟩ := value_of_shows v h hw
      obtain ⟨rfl, rfl⟩ := memberValues_of_shows rest hrest hvalues
      exact ⟨rfl, (Except.ok.inj hv).symm⟩

end

mutual

/-- A node that shows all of the tree of a value holds what comes back of the value. -/
theorem value_of_whole : ∀ (v : Value) {node : Node}, Shows true (ofValue v) node →
    node.value = .ok v.reread
  | .nil, _, h => by cases h; rfl
  | .bool b, _, h => by cases h; rfl
  | .int n, _, h => by
    cases h
    have hlow := n.le_toInt
    have hhigh := n.toInt_lt
    rw [Node.value, if_pos ⟨by omega, by omega⟩, Int64.ofInt_toInt]
    rfl
  | .number x, _, h => by
    cases h with
    | number hx hy => rw [Value.reread, if_pos hx, hy, Option.getD_some, Node.value]
    | notFinite hx => rw [Value.reread, if_neg (by simp [hx]), Node.value]
  | .text s, _, h => by cases h; rfl
  | .list items, _, h => by
    cases h with
    | @array _ _ nodes cut h =>
      obtain ⟨rfl, hvalues⟩ := itemValues_of_whole items h
      rw [Node.value, hvalues]
      rfl
  | .record fields, _, h => by
    cases h with
    | @object _ _ nodes cut h =>
      obtain ⟨rfl, hvalues⟩ := memberValues_of_whole fields h
      rw [Node.value, hvalues]
      rfl

theorem itemValues_of_whole : ∀ (items : List Value) {nodes : List Node}
    {cut : Option Malformation}, ShowsItems true (ofItems items) nodes cut →
    cut = none ∧ itemValues nodes = .ok (Value.rereadItems items)
  | [], _, _, h => by cases h; exact ⟨rfl, rfl⟩
  | v :: rest, _, _, h => by
    cases h with
    | cons h hrest =>
      obtain ⟨rfl, hvalues⟩ := itemValues_of_whole rest hrest
      refine ⟨rfl, ?_⟩
      rw [itemValues, value_of_whole v h, hvalues]
      rfl

theorem memberValues_of_whole : ∀ (fields : List (String × Value))
    {nodes : List (String × Mark × Node)} {cut : Option Malformation},
    ShowsMembers true (ofFields fields) nodes cut →
    cut = none ∧ memberValues nodes = .ok (Value.rereadFields fields)
  | [], _, _, h => by cases h; exact ⟨rfl, rfl⟩
  | (key, v) :: rest, _, _, h => by
    cases h with
    | cons mark h hrest =>
      obtain ⟨rfl, hvalues⟩ := memberValues_of_whole rest hrest
      refine ⟨rfl, ?_⟩
      rw [memberValues, value_of_whole v h, hvalues]
      rfl

end

/-! ## Decoders -/

/-- The decoder gives this result for nodes that show the tree, and none for those that are cut
off. -/
structure Decodes {α : Type} (decoder : Node → Decoded α) (json : Json) (a : α) : Prop where
  unique {whole : Bool} {node : Node} {b : α} (h : Shows whole json node)
    (hb : decoder node = .ok b) : whole = true ∧ b = a
  total {node : Node} (h : Shows true json node) : decoder node = .ok a

variable {α : Type}

theorem Decodes.map {β : Type} {decoder : Node → Decoded α} {json : Json} {a : α}
    (h : Decodes decoder json a) (f : α → β) :
    Decodes (fun node => (decoder node).map f) json (f a) := by
  refine ⟨fun hshows hb => ?_, fun hshows => ?_⟩
  · obtain ⟨a', ha', rfl⟩ := map_ok hb
    obtain ⟨hwhole, rfl⟩ := h.unique hshows ha'
    exact ⟨hwhole, rfl⟩
  · rw [h.total hshows]
    rfl

theorem decodes_value (v : Value) : Decodes Node.asValue (ofValue v) v.reread where
  unique h hw := value_of_shows v h (mapError_ok hw)
  total h := by
    rw [Node.asValue, value_of_whole v h]
    rfl

theorem decodes_text (s : String) : Decodes Node.asText (.text s) s where
  unique h hs := by
    cases h with
    | broken => cases hs
    | text => cases hs; exact ⟨rfl, rfl⟩
  total h := by cases h; rfl

private theorem asWord_int (n : UInt32) (span : Span) :
    Node.asWord (.int n.toNat span) = .ok n := by
  have hlt := n.toNat_lt
  rw [Node.asWord, if_pos ⟨by omega, by omega⟩, Int.toNat_natCast, UInt32.ofNat_toNat]

theorem decodes_word (n : UInt32) : Decodes Node.asWord (.int n.toNat) n where
  unique h hn := by
    cases h with
    | broken => cases hn
    | int _ span =>
      rw [asWord_int] at hn
      cases hn
      exact ⟨rfl, rfl⟩
  total h := by
    cases h with
    | int _ span => exact asWord_int n span

theorem decodes_word? (n : UInt32) : Decodes Node.asWord? (.int n.toNat) (some n) where
  unique h hn := by
    cases h with
    | broken => cases hn
    | int _ span =>
      rw [Node.asWord?, asWord_int] at hn
      · cases hn
        exact ⟨rfl, rfl⟩
      · rintro _ ⟨⟩
  total h := by
    cases h with
    | int _ span =>
      rw [Node.asWord?, asWord_int]
      · rfl
      · rintro _ ⟨⟩

private theorem eachItem_of_shows {decoder : Node → Decoded α} {f : α → Json} {values : List α}
    (h : ∀ v ∈ values, Decodes decoder (f v) v) {whole : Bool} {nodes : List Node}
    {results : List α} (hshows : ShowsItems whole (values.map f) nodes none)
    (hresults : Node.eachItem decoder nodes = .ok results) : whole = true ∧ results = values := by
  induction values generalizing nodes results with
  | nil =>
    cases hshows with
    | nil => cases hresults; exact ⟨rfl, rfl⟩
  | cons v rest ih =>
    have hv := h v List.mem_cons_self
    cases hshows with
    | stop hnode =>
      obtain ⟨a, ha, -⟩ := bind_ok hresults
      exact absurd (hv.unique hnode ha).1 Bool.false_ne_true
    | cons hnode hnodes =>
      obtain ⟨a, ha, hresults⟩ := bind_ok hresults
      obtain ⟨as, has, hresults⟩ := bind_ok hresults
      obtain ⟨-, rfl⟩ := hv.unique hnode ha
      obtain ⟨hwhole, rfl⟩ := ih (fun v' hv' => h v' (List.mem_cons_of_mem _ hv')) hnodes has
      exact ⟨hwhole, (Except.ok.inj hresults).symm⟩

private theorem eachItem_of_whole {decoder : Node → Decoded α} {f : α → Json} {values : List α}
    (h : ∀ v ∈ values, Decodes decoder (f v) v) {nodes : List Node} {cut : Option Malformation}
    (hshows : ShowsItems true (values.map f) nodes cut) :
    cut = none ∧ Node.eachItem decoder nodes = .ok values := by
  induction values generalizing nodes with
  | nil =>
    cases hshows
    exact ⟨rfl, rfl⟩
  | cons v rest ih =>
    cases hshows with
    | cons hnode hnodes =>
      obtain ⟨rfl, heach⟩ := ih (fun v' hv' => h v' (List.mem_cons_of_mem _ hv')) hnodes
      refine ⟨rfl, ?_⟩
      rw [Node.eachItem, (h v List.mem_cons_self).total hnode, heach]
      rfl

theorem decodes_list {decoder : Node → Decoded α} {f : α → Json} {values : List α}
    (h : ∀ v ∈ values, Decodes decoder (f v) v) :
    Decodes (Node.asList decoder) (.array (values.map f)) values := by
  refine ⟨fun hshows hresults => ?_, fun hshows => ?_⟩
  · cases hshows with
    | broken => cases hresults
    | @array _ _ nodes cut hitems =>
      obtain ⟨items, heach, hresults⟩ := bind_ok hresults
      obtain ⟨⟨⟩, hcut, hresults⟩ := bind_ok hresults
      cases cut with
      | some fault => cases hcut
      | none =>
        obtain ⟨hwhole, rfl⟩ := eachItem_of_shows h hitems heach
        exact ⟨hwhole, (Except.ok.inj hresults).symm⟩
  · cases hshows with
    | @array _ _ nodes cut hitems =>
      obtain ⟨rfl, heach⟩ := eachItem_of_whole h hitems
      rw [Node.asList, heach]
      rfl

private theorem eachMember_of_shows {β : Type} {decoder : Node → Decoded β} {f : α → Json}
    {g : α → β} {fields : Fields α} (h : ∀ entry ∈ fields, Decodes decoder (f entry.2) (g entry.2))
    {whole : Bool} {nodes : List (String × Mark × Node)} {results : Fields β}
    (hshows : ShowsMembers whole (fields.map fun entry => (entry.1, f entry.2)) nodes none)
    (hresults : Node.eachMember decoder nodes = .ok results) :
    whole = true ∧ results = fields.map fun entry => (entry.1, g entry.2) := by
  induction fields generalizing nodes results with
  | nil =>
    cases hshows with
    | nil => cases hresults; exact ⟨rfl, rfl⟩
  | cons entry rest ih =>
    have hv := h entry List.mem_cons_self
    cases hshows with
    | stop hnode =>
      obtain ⟨a, ha, -⟩ := bind_ok hresults
      exact absurd (hv.unique hnode ha).1 Bool.false_ne_true
    | cons mark hnode hnodes =>
      obtain ⟨a, ha, hresults⟩ := bind_ok hresults
      obtain ⟨as, has, hresults⟩ := bind_ok hresults
      obtain ⟨-, rfl⟩ := hv.unique hnode ha
      obtain ⟨hwhole, rfl⟩ :=
        ih (fun entry' he => h entry' (List.mem_cons_of_mem entry he)) hnodes has
      exact ⟨hwhole, (Except.ok.inj hresults).symm⟩

private theorem eachMember_of_whole {β : Type} {decoder : Node → Decoded β} {f : α → Json}
    {g : α → β} {fields : Fields α} (h : ∀ entry ∈ fields, Decodes decoder (f entry.2) (g entry.2))
    {nodes : List (String × Mark × Node)} {cut : Option Malformation}
    (hshows : ShowsMembers true (fields.map fun entry => (entry.1, f entry.2)) nodes cut) :
    cut = none ∧ Node.eachMember decoder nodes =
      .ok (fields.map fun entry => (entry.1, g entry.2)) := by
  induction fields generalizing nodes with
  | nil =>
    cases hshows
    exact ⟨rfl, rfl⟩
  | cons entry rest ih =>
    cases hshows with
    | cons mark hnode hnodes =>
      obtain ⟨rfl, heach⟩ := ih (fun entry' he => h entry' (List.mem_cons_of_mem entry he)) hnodes
      refine ⟨rfl, ?_⟩
      rw [Node.eachMember, (h entry List.mem_cons_self).total hnode, heach]
      rfl

theorem decodes_map {β : Type} {decoder : Node → Decoded β} {f : α → Json} {g : α → β}
    {fields : Fields α} (h : ∀ entry ∈ fields, Decodes decoder (f entry.2) (g entry.2)) :
    Decodes (Node.asMap decoder) (.object (fields.map fun entry => (entry.1, f entry.2)))
      (Fields.sorted (fields.map fun entry => (entry.1, g entry.2))) := by
  refine ⟨fun hshows hresults => ?_, fun hshows => ?_⟩
  · cases hshows with
    | broken => cases hresults
    | @object _ _ nodes cut hmembers =>
      obtain ⟨members, heach, hresults⟩ := bind_ok hresults
      obtain ⟨⟨⟩, hcut, hresults⟩ := bind_ok hresults
      cases cut with
      | some fault => cases hcut
      | none =>
        obtain ⟨hwhole, rfl⟩ := eachMember_of_shows h hmembers heach
        exact ⟨hwhole, (Except.ok.inj hresults).symm⟩
  · cases hshows with
    | @object _ _ nodes cut hmembers =>
      obtain ⟨rfl, heach⟩ := eachMember_of_whole h hmembers
      rw [Node.asMap, heach]
      rfl

/-! ## Records -/

/-- A field of a record: what is written for it, if anything, and what reading that back does to the
record. -/
structure RecordPart (α : Type) where
  name : String
  json : Option Json
  update : α → α

/-- The members that are written for the parts of a record. -/
def RecordPart.members (parts : List (RecordPart α)) : List (String × Json) :=
  parts.filterMap (fun part => part.json.map (fun json => (part.name, json)))

/-- The record that comes back: the parts that were written are set, one after the other. -/
def RecordPart.apply (parts : List (RecordPart α)) (start : α) : α :=
  parts.foldl (fun record part => if part.json.isSome then part.update record else record) start

private theorem setMembers_of_shows {shape : Shape} {set : α → String → Node → Decoded α}
    {parts : List (RecordPart α)} (hnames : (parts.map RecordPart.name).Nodup)
    (hfields : ∀ part ∈ parts, part.name ∈ shape.fields)
    (hset : ∀ part ∈ parts, ∀ json, part.json = some json → ∀ record,
      Decodes (set record part.name) json (part.update record))
    {whole : Bool} {nodes : List (String × Mark × Node)} {start record : α}
    {seen seen' : List String} (hseen : ∀ part ∈ parts, part.name ∉ seen)
    (hshows : ShowsMembers whole (RecordPart.members parts) nodes none)
    (hrecord : shape.setMembers set nodes start seen = .ok (record, seen')) :
    whole = true ∧ record = RecordPart.apply parts start := by
  induction parts generalizing nodes start seen with
  | nil =>
    cases hshows with
    | nil => cases hrecord; exact ⟨rfl, rfl⟩
  | cons part rest ih =>
    obtain ⟨name, json, update⟩ := part
    obtain ⟨hname, hrestNames⟩ := List.nodup_cons.mp hnames
    have hrest {nodes : List (String × Mark × Node)} {start : α} {seen : List String} :=
      @ih hrestNames (fun part hp => hfields part (List.mem_cons_of_mem _ hp))
        (fun part hp => hset part (List.mem_cons_of_mem _ hp)) nodes start seen
    cases json with
    | none => exact hrest (fun part hp => hseen part (List.mem_cons_of_mem _ hp)) hshows hrecord
    | some json =>
      have hdecodes := hset _ List.mem_cons_self json rfl start
      have hfield : name ∈ shape.fields := hfields _ List.mem_cons_self
      have hfresh : name ∉ seen := hseen _ List.mem_cons_self
      change ShowsMembers whole ((name, json) :: RecordPart.members rest) nodes none at hshows
      cases hshows with
      | stop hnode =>
        rw [Shape.setMembers, if_pos hfield, if_neg hfresh] at hrecord
        obtain ⟨a, ha, -⟩ := bind_ok hrecord
        exact absurd (hdecodes.unique hnode ha).1 Bool.false_ne_true
      | cons mark hnode hnodes =>
        rw [Shape.setMembers, if_pos hfield, if_neg hfresh] at hrecord
        obtain ⟨a, ha, hrecord⟩ := bind_ok hrecord
        obtain ⟨-, rfl⟩ := hdecodes.unique hnode ha
        refine hrest (fun part hp => ?_) hnodes hrecord
        rw [List.mem_cons, not_or]
        refine ⟨fun heq => hname (List.mem_map.mpr ⟨part, hp, heq⟩), ?_⟩
        exact hseen part (List.mem_cons_of_mem _ hp)

private theorem setMembers_of_whole {shape : Shape} {set : α → String → Node → Decoded α}
    {parts : List (RecordPart α)} (hnames : (parts.map RecordPart.name).Nodup)
    (hfields : ∀ part ∈ parts, part.name ∈ shape.fields)
    (hset : ∀ part ∈ parts, ∀ json, part.json = some json → ∀ record,
      Decodes (set record part.name) json (part.update record))
    {nodes : List (String × Mark × Node)} {cut : Option Malformation} (start : α)
    {seen : List String} (hseen : ∀ part ∈ parts, part.name ∉ seen)
    (hshows : ShowsMembers true (RecordPart.members parts) nodes cut) :
    cut = none ∧ ∃ seen', shape.setMembers set nodes start seen =
        .ok (RecordPart.apply parts start, seen') ∧ (∀ field ∈ seen, field ∈ seen') ∧
      ∀ part ∈ parts, part.json.isSome → part.name ∈ seen' := by
  induction parts generalizing nodes start seen with
  | nil =>
    cases hshows
    exact ⟨rfl, seen, rfl, fun _ h => h, by rintro part ⟨⟩⟩
  | cons part rest ih =>
    obtain ⟨name, json, update⟩ := part
    obtain ⟨hname, hrestNames⟩ := List.nodup_cons.mp hnames
    have hrest {nodes : List (String × Mark × Node)} (start : α) {seen : List String} :=
      @ih hrestNames (fun part hp => hfields part (List.mem_cons_of_mem _ hp))
        (fun part hp => hset part (List.mem_cons_of_mem _ hp)) nodes start seen
    cases json with
    | none =>
      obtain ⟨hcut, seen', heq, hkept, hset'⟩ :=
        hrest start (fun part hp => hseen part (List.mem_cons_of_mem _ hp)) hshows
      refine ⟨hcut, seen', heq, hkept, fun part hp hsome => ?_⟩
      rcases List.mem_cons.mp hp with rfl | hp
      · cases hsome
      · exact hset' part hp hsome
    | some json =>
      have hdecodes := hset _ List.mem_cons_self json rfl start
      have hfield : name ∈ shape.fields := hfields _ List.mem_cons_self
      have hfresh : name ∉ seen := hseen _ List.mem_cons_self
      change ShowsMembers true ((name, json) :: RecordPart.members rest) nodes cut at hshows
      cases hshows with
      | cons mark hnode hnodes =>
        have hseen' : ∀ part ∈ rest, part.name ∉ name :: seen := by
          intro part hp
          rw [List.mem_cons, not_or]
          refine ⟨fun heq => hname (List.mem_map.mpr ⟨part, hp, heq⟩), ?_⟩
          exact hseen part (List.mem_cons_of_mem _ hp)
        obtain ⟨hcut, seen', heq, hkept, hset'⟩ := hrest (update start) hseen' hnodes
        refine ⟨hcut, seen', ?_, fun field h => hkept field (List.mem_cons_of_mem _ h),
          fun part hp hsome => ?_⟩
        · rw [Shape.setMembers, if_pos hfield, if_neg hfresh, hdecodes.total hnode]
          exact heq
        · rcases List.mem_cons.mp hp with rfl | hp
          · exact hkept name List.mem_cons_self
          · exact hset' part hp hsome

/-- A record that is written as an object reads back part by part. -/
theorem decodes_record {shape : Shape} {set : α → String → Node → Decoded α}
    {parts : List (RecordPart α)} (hnames : (parts.map RecordPart.name).Nodup)
    (hfields : ∀ part ∈ parts, part.name ∈ shape.fields)
    (hrequired : ∀ field ∈ shape.fields, field ∉ shape.optional →
      ∃ part ∈ parts, part.json.isSome ∧ part.name = field)
    (hset : ∀ part ∈ parts, ∀ json, part.json = some json → ∀ record,
      Decodes (set record part.name) json (part.update record)) (start : α) :
    Decodes (shape.decode start set) (.object (RecordPart.members parts))
      (RecordPart.apply parts start) := by
  refine ⟨fun hshows hresult => ?_, fun hshows => ?_⟩
  · cases hshows with
    | broken => cases hresult
    | @object _ _ nodes cut hmembers =>
      obtain ⟨⟨record, seen⟩, hrecord, hresult⟩ := bind_ok hresult
      obtain ⟨⟨⟩, hcut, hresult⟩ := bind_ok hresult
      cases cut with
      | some fault => cases hcut
      | none =>
        obtain ⟨hwhole, rfl⟩ := setMembers_of_shows hnames hfields hset
          (fun part _ => List.not_mem_nil) hmembers hrecord
        dsimp only at hresult
        split at hresult
        · cases hresult
          exact ⟨hwhole, rfl⟩
        · cases hresult
  · cases hshows with
    | @object _ _ nodes cut hmembers =>
      obtain ⟨rfl, seen, hrecord, -, hseen⟩ := setMembers_of_whole hnames hfields hset start
        (fun part _ => List.not_mem_nil) hmembers
      have hmissing : shape.missing? seen = none := by
        rw [Shape.missing?, List.find?_eq_none]
        intro field hfield
        by_cases hoptional : field ∈ shape.optional
        · simp [hoptional]
        · obtain ⟨part, hpart, hsome, rfl⟩ := hrequired field hfield hoptional
          simp [hseen part hpart hsome]
      rw [Shape.decode, hrecord]
      simp only [bind, Except.bind, hmissing]
      rfl

/-- Decoding a text that was written for a tree gives the decoder's result for that tree. -/
theorem decode_written {decoder : Node → Decoded α} {json : Json} {a : α}
    (h : Decodes decoder json a) {text : String} (ht : Written json text.toList) {b : α}
    (hb : decode text decoder = .ok b) : b = a := by
  obtain ⟨whole, hshows, hafter⟩ := reads_written ht
  unfold decode at hb
  split at hb
  next node after heq =>
    rw [heq] at hshows hafter
    obtain ⟨result, hresult, hb⟩ := bind_ok hb
    obtain ⟨-, rfl⟩ := h.unique hshows hresult
    dsimp only at hafter
    subst hafter
    exact (Except.ok.inj hb).symm

end Json

end Gamebook
