import ConsentBanner.Error
import ConsentBanner.Message
import ConsentBanner.Page.Pointer
import Mathlib.Algebra.Group.Nat.Defs

/-!
# Written forms are read back

Everything that crosses the wire in both directions is read back from what is written of it, a
rectangle if its numbers are finite.  The lemmas go up with the decoders: scalars and lists, named
constants, members of a record, variants told by a tag.  `wire_round_trip` puts them together and
adds that the tag of a message is the name of its kind.

Doubles have no decidable equality; whether a value without them was read back can be decided (`Json.eq_ok_of_agrees`).
-/

set_option autoImplicit false

namespace ConsentBanner.Json

mutual

/-- Two values are the same, and there is no double in them. -/
def agrees : Json → Json → Bool
  | .null, .null => true
  | .bool b, .bool other => b == other
  | .number (.whole n), .number (.whole other) => n == other
  | .string s, .string other => s == other
  | .array elements, .array others => elementsAgree elements others
  | .object members, .object others => membersAgree members others
  | _, _ => false

def elementsAgree : List Json → List Json → Bool
  | [], [] => true
  | element :: rest, other :: others => element.agrees other && elementsAgree rest others
  | _, _ => false

/-- The members of two objects have the same keys and agree. -/
def membersAgree : List (String × Json) → List (String × Json) → Bool
  | [], [] => true
  | (key, value) :: rest, (name, other) :: others => key == name && value.agrees other && membersAgree rest others
  | _, _ => false

end

mutual

theorem eq_of_agrees : ∀ {value other : Json}, value.agrees other = true → value = other
  | .null, other, same => by
    cases other <;> simp [agrees] at same ⊢
  | .bool b, other, same => by
    cases other <;> simp [agrees] at same ⊢
    exact same
  | .number n, other, same => by
    cases n <;> rcases other with _ | _ | (_ | _) | _ | _ | _ <;> simp [agrees] at same ⊢
    exact same
  | .string s, other, same => by
    cases other <;> simp [agrees] at same ⊢
    exact same
  | .array elements, other, same => by
    cases other <;> simp only [agrees, Bool.false_eq_true] at same
    rw [eq_of_elementsAgree same]
  | .object members, other, same => by
    cases other <;> simp only [agrees, Bool.false_eq_true] at same
    rw [eq_of_membersAgree same]

theorem eq_of_elementsAgree : ∀ {elements others : List Json}, elementsAgree elements others = true →
    elements = others
  | [], [], _ => rfl
  | element :: rest, other :: others, same => by
    obtain ⟨first, more⟩ := Bool.and_eq_true_iff.mp same
    rw [eq_of_agrees first, eq_of_elementsAgree more]

theorem eq_of_membersAgree : ∀ {members others : List (String × Json)}, membersAgree members others = true →
    members = others
  | [], [], _ => rfl
  | (key, value) :: rest, (name, other) :: others, same => by
    obtain ⟨head, more⟩ := Bool.and_eq_true_iff.mp same
    obtain ⟨named, first⟩ := Bool.and_eq_true_iff.mp head
    rw [eq_of_beq named, eq_of_agrees first, eq_of_membersAgree more]

end

theorem eq_ok_of_agrees {ε : Type} {read : Except ε Json} {value : Json}
    (agrees : read.toOption.any value.agrees = true) : read = .ok value := by
  cases read with
  | error cause => cases agrees
  | ok found => exact congrArg Except.ok (eq_of_agrees agrees).symm

end ConsentBanner.Json

namespace ConsentBanner.Json.Decode

variable {held : Held}

section Scalars

@[simp] theorem bool_bool (b : Bool) : bool held (.bool b) = .ok b := rfl

@[simp] theorem string_string (s : String) : string held (.string s) = .ok s := rfl

@[simp] theorem any_apply (value : Json) : any held value = .ok value := rfl

@[simp] theorem table_object (members : Keyed String Json) :
    table held (.object members) = .ok members := rfl

theorem natural_nat (name : String) {limit n : Nat} (fits : n ≤ limit) :
    natural name limit held (.nat n) = .ok n := by
  have inRange : ¬((n : Int) < 0 ∨ (limit : Int) < n) := by omega
  unfold natural Json.nat
  simp only [if_neg inRange, Int.toNat_natCast]

theorem nat32_nat {n : Nat} (fits : n < 2 ^ 32) : nat32 held (.nat n) = .ok n := by
  apply natural_nat
  simp only [Nat.pow_eq]
  omega

theorem nat64_nat {n : Nat} (fits : n < 2 ^ 64) : nat64 held (.nat n) = .ok n := by
  apply natural_nat
  simp only [Nat.pow_eq]
  omega

theorem float_float {x : Float} (finite : x.isFinite = true) :
    float held (.float x) = .ok x := by
  simp [float, Json.float, finite, Number.toFloat]

end Scalars

section Lists

theorem each_map {α : Type} {inner : Decoder α} {write : α → Json}
    (reads : ∀ a, inner held (write a) = .ok a) (values : List α) :
    each inner held (values.map write) = .ok values := by
  induction values with
  | nil => rfl
  | cons a rest ih =>
    simp only [List.map_cons, each, reads a, ih]
    rfl

@[simp] theorem list_strings (texts : List String) :
    list string held (.strings texts) = .ok texts := each_map string_string texts

@[simp] theorem list_any (values : List Json) : list any held (.array values) = .ok values := by
  have read : each any held (values.map fun value => value) = .ok values :=
    each_map any_apply values
  rwa [List.map_id'] at read

end Lists

section Variants

variable {α : Type} {variants : List (String × α)}

theorem variantNamed_of_get? {name : String} {a : α} (known : List String)
    (listed : Keyed.get? variants name = some a) : variantNamed variants known name = .ok a := by
  simp only [variantNamed, listed]

theorem constant_string {name : String} {a : α} (listed : Keyed.get? variants name = some a) :
    constant variants held (.string name) = .ok a := variantNamed_of_get? _ listed

/-- A variant is chosen by its tag, and its content is read from the other members. -/
theorem tagged_object {τ : Type} {kinds : List (String × τ)}
    {content : τ → Json → Except DecodeError α} {members : Keyed String Json}
    {field name type : String} {kind : τ} (tagged : members.get? field = some (.string name))
    (listed : Keyed.get? kinds name = some kind) :
    Decode.tagged field type kinds content held (.object members) =
      content kind (.object (members.erase field)) := by
  have chosen : tag kinds held (.string name) = .ok kind := by
    cases held <;> exact variantNamed_of_get? _ listed
  simp only [Decode.tagged, member?, tagged, chosen]
  rfl

end Variants

@[simp] theorem required_some {α : Type} (field : String) (a : α) :
    required field (some a) = .ok a := rfl

end ConsentBanner.Json.Decode

namespace ConsentBanner

open Json (Held)
open Json.Decode

variable {held : Held}

@[simp] theorem AutoAction.decode_encode (action : AutoAction) :
    AutoAction.decode held action.encode = .ok action := by
  cases action <;> exact constant_string (by decide)

@[simp] theorem ErrorCategory.decode_encode (category : ErrorCategory) :
    ErrorCategory.decode held category.encode = .ok category := by
  cases category <;> exact constant_string (by decide)

theorem MouseKind.decode_encode (kind : MouseKind) :
    MouseKind.decode held kind.encode = .ok kind := by
  cases kind <;> exact constant_string (by decide)

theorem NodeId.decode_encode {node : NodeId} (fits : node < 2 ^ 64) :
    NodeId.decode held (NodeId.encode node) = .ok node := nat64_nat fits

theorem EngineConfig.decode_encode {config : EngineConfig} (fits : config.detectRetries < 2 ^ 32) :
    EngineConfig.decode held config.encode = .ok config := by
  simp [EngineConfig.decode, EngineConfig.encode, record, memberOr, member?, memberAgain?,
    Keyed.get?, nat32_nat fits, Except.map, bind, Except.bind, pure, Except.pure]

theorem RuleSet.decode_encode (rules : RuleSet) : RuleSet.decode held rules.encode = .ok rules := by
  simp [RuleSet.decode, RuleSet.encode, record, memberOr, Keyed.get?, bind, Except.bind, pure,
    Except.pure]

theorem RuleSet.eq_ok_of_agrees {ε : Type} {read : Except ε RuleSet} {rules : RuleSet}
    (agrees : (read.map encode).toOption.any rules.encode.agrees = true) : read = .ok rules := by
  have same : read.map encode = .ok rules.encode := Json.eq_ok_of_agrees agrees
  cases read with
  | error cause => cases same
  | ok found =>
    have again : RuleSet.decode .direct found.encode = .ok rules := by
      rw [Except.ok.inj same, decode_encode]
    rw [Except.ok.inj ((decode_encode found).symm.trans again)]

theorem ConsentError.decode_encode (error : ConsentError) :
    ConsentError.decode held error.encode = .ok error := by
  simp [ConsentError.decode, ConsentError.encode, record, member?, Keyed.get?, Except.map, bind,
    Except.bind, pure, Except.pure]

theorem Rect.decode_encode {rect : Rect} (left : rect.left.isFinite = true)
    (top : rect.top.isFinite = true) (width : rect.width.isFinite = true)
    (height : rect.height.isFinite = true) : Rect.decode held rect.encode = .ok rect := by
  simp [Rect.decode, Rect.encode, record, member?, Keyed.get?, float_float left, float_float top,
    float_float width, float_float height, Except.map, bind, Except.bind, pure, Except.pure]

namespace Outbound

theorem get?_kind (k : Kind) : Keyed.get? (Kind.all.map fun k => (k.text, k)) k.text = some k := by
  cases k <;> decide

theorem encode_tag (message : Outbound) :
    Keyed.get? message.encode.members "type" = some (.string message.kind) := by
  cases message <;> rfl

theorem decodeContent_encode (message : Outbound) :
    decodeContent message.tag held (.object (Keyed.erase message.encode.members "type")) =
      .ok message := by
  cases message <;>
    simp [encode, Json.members, Keyed.erase, tag, decodeContent, decodeNamed, decodeResult, record,
      member?, Keyed.get?, Except.map, bind, Except.bind, pure, Except.pure]

theorem decode_encode (message : Outbound) : decode held message.encode = .ok message := by
  have object : message.encode = .object message.encode.members := by cases message <;> rfl
  rw [object]
  exact (tagged_object message.encode_tag (get?_kind message.tag)).trans
    message.decodeContent_encode

end Outbound

/-- Every value of a type of the wire is read back from its written form, numbers being in the range
of their type and coordinates finite, and a written message is tagged by the name of its kind. -/
theorem wire_round_trip (held : Held) :
    (∀ message : Outbound, Outbound.decode held message.encode = .ok message ∧
      message.encode.get? "type" = some (.string message.kind)) ∧
    (∀ config : EngineConfig, config.detectRetries < 2 ^ 32 →
      EngineConfig.decode held config.encode = .ok config) ∧
    (∀ rules : RuleSet, RuleSet.decode held rules.encode = .ok rules) ∧
    (∀ action : AutoAction, AutoAction.decode held action.encode = .ok action) ∧
    (∀ node : NodeId, node < 2 ^ 64 → NodeId.decode held (NodeId.encode node) = .ok node) ∧
    (∀ kind : MouseKind, MouseKind.decode held kind.encode = .ok kind) ∧
    (∀ category : ErrorCategory, ErrorCategory.decode held category.encode = .ok category) ∧
    (∀ error : ConsentError, ConsentError.decode held error.encode = .ok error) ∧
    (∀ rect : Rect, rect.left.isFinite = true → rect.top.isFinite = true →
      rect.width.isFinite = true → rect.height.isFinite = true →
      Rect.decode held rect.encode = .ok rect) := by
  refine ⟨?messages, ?configs, RuleSet.decode_encode, AutoAction.decode_encode, ?nodes,
    MouseKind.decode_encode, ErrorCategory.decode_encode, ConsentError.decode_encode, ?rects⟩
  case messages =>
    intro message
    refine ⟨message.decode_encode, ?_⟩
    cases message <;> rfl
  case configs =>
    intro config fits
    exact EngineConfig.decode_encode fits
  case nodes =>
    intro node fits
    exact NodeId.decode_encode fits
  case rects =>
    intro rect left top width height
    exact Rect.decode_encode left top width height

/-- The largest numbers of their types and a rectangle with a negative zero are read back. -/
theorem wire_round_trip_extremes :
    let config : EngineConfig := ⟨true, .optIn, ["Evidon"], false, 4294967295⟩
    let rect : Rect := ⟨-0.0, 0.1, 1e308, 5e-324⟩
    (config.detectRetries < 2 ^ 32 ∧
      EngineConfig.decode .back config.encode = .ok config) ∧
    (18446744073709551615 < 2 ^ 64 ∧
      NodeId.decode .back (NodeId.encode 18446744073709551615) = .ok 18446744073709551615) ∧
    (rect.left.isFinite = true ∧ rect.top.isFinite = true ∧ rect.width.isFinite = true ∧
      rect.height.isFinite = true ∧ Rect.decode .back rect.encode = .ok rect) := by
  obtain ⟨-, configs, -, -, nodes, -, -, -, rects⟩ := wire_round_trip .back
  have left : (-0.0 : Float).isFinite = true := by decide
  have top : (0.1 : Float).isFinite = true := by decide
  have width : (1e308 : Float).isFinite = true := by decide +kernel
  have height : (5e-324 : Float).isFinite = true := by decide +kernel
  exact ⟨⟨by decide, configs _ (by decide)⟩, ⟨by decide, nodes _ (by decide)⟩, left, top, width,
    height, rects _ left top width height⟩

end ConsentBanner
