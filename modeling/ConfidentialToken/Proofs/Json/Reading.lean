import Mathlib.Logic.Relation
import ConfidentialToken.Json.Parser
import ConfidentialToken.Proofs.Json.Numbers
import ConfidentialToken.Proofs.Json.Strings

/-!
A written value is read back.

Reading is a run of a machine whose state is the text that is left and the
position in it, one step for each token. The run through the text of a value
does not depend on what stands around the text, so that the runs through the
parts of an array or an object are put together.
-/

namespace ConfidentialToken.Json

open Relation (ReflTransGen)

/-- A value that has a text of its own: no part of it lost its content, and its
numbers fit into a word. -/
inductive Value.Plain : Value → Prop
  | null : Plain .null
  | bool (value : Bool) : Plain (.bool value)
  | natural {number : Nat} (fits : number < UInt64.size) : Plain (.natural number)
  | string (text : String) : Plain (.string text)
  | array {items : List Value} (plain : ∀ item ∈ items, Plain item) : Plain (.array items)
  | object {members : List (String × Value)} (plain : ∀ member ∈ members,
      Plain member.2) :
      Plain (.object members)

/-- One token is taken from the text that is left. -/
inductive Reads : Bytes × Position → Bytes × Position → Prop
  | token {byte : UInt8} {rest following : Bytes} {token : Token}
      {before after : Position} (visible : isBlank byte = false)
      (read : ∀ fuel, rest.length < fuel →
        readToken fuel byte rest = some (token, following))
      (shorter : following.length ≤ rest.length)
      (step : before.step token = some after) :
      Reads (byte :: rest, before) (following, after)

/-- A run through a whole text takes its tokens one after the other. -/
theorem exists_tokens_of_reads {state : Bytes × Position} {after : Position}
    (run : ReflTransGen Reads state ([], after)) :
    ∃ tokens, (∀ fuel reversed, state.1.length ≤ fuel →
        tokensFrom fuel state.1 reversed = some (reversed.reverse ++ tokens)) ∧
      tokens.foldlM Position.step state.2 = some after := by
  induction run using ReflTransGen.head_induction_on with
  | refl => exact ⟨[], fun fuel reversed _ => by simp [tokensFrom], rfl⟩
  | head first _ inductionHypothesis =>
      obtain ⟨tokens, taken, folded⟩ := inductionHypothesis
      cases first with
      | @token byte rest following token before middle visible read shorter step =>
          refine ⟨token :: tokens, fun fuel reversed enough => ?_, ?_⟩
          · cases fuel with
            | zero => exact absurd enough (Nat.not_succ_le_zero _)
            | succ fuel =>
                have enoughRest : rest.length ≤ fuel := Nat.le_of_succ_le_succ enough
                simp only [tokensFrom, visible,
                  read (fuel + 1) (Nat.lt_succ_of_le enoughRest), Bool.false_eq_true,
                  if_false]
                rw [taken fuel (token :: reversed) (Nat.le_trans shorter enoughRest)]
                simp
          · rw [List.foldlM_cons, step]
            exact folded

theorem parse_of_reads {text : Bytes} {value : Value}
    (run : ReflTransGen Reads (text, ⟨[], .value false⟩) ([], ⟨[], .finished value⟩)) :
    parse text = some value := by
  obtain ⟨tokens, taken, folded⟩ := exists_tokens_of_reads run
  have all : tokens? text = some tokens := by
    simpa [tokens?] using taken text.length [] (Nat.le_refl _)
  simp [parse, all, folded]

theorem reads_punctuation (token : Token) {byte : UInt8} {before after : Position}
    (rest : Bytes) (visible : isBlank byte = false)
    (read : ∀ fuel, readToken fuel byte rest = some (token, rest))
    (step : before.step token = some after) :
    Reads (byte :: rest, before) (rest, after) :=
  .token visible (fun fuel _ => read fuel) (Nat.le_refl _) step

theorem reads_string (text : String) (rest : Bytes) {before after : Position}
    (step : before.step (.string (some text)) = some after) :
    Reads (renderString text ++ rest, before) (rest, after) := by
  have longer := length_le_escaped (Bytes.ofText text)
  have shape : renderString text ++ rest =
      0x22 :: ((Bytes.ofText text).flatMap escapeByte ++ 0x22 :: rest) := by
    simp [renderString]
  rw [shape]
  refine .token rfl (fun fuel enough => ?_) ?_ step
  · rw [List.length_append, List.length_cons] at enough
    have enoughBytes : (Bytes.ofText text).length < fuel := by omega
    have whole := readString_escaped enoughBytes rest []
    simp [readToken, whole, Bytes.toText?_ofText]
  · rw [List.length_append, List.length_cons]
    omega

theorem reads_natural {number : Nat} (fits : number < UInt64.size) {rest : Bytes}
    (ends : EndsNumber rest) {before after : Position}
    (step : before.step (.scalar (.natural number)) = some after) :
    Reads (renderNatural number ++ rest, before) (rest, after) := by
  obtain ⟨first, others, written, -⟩ := renderNatural_cons number
  have digit : isDigit first = true :=
    isDigit_renderNatural number first (by simp [written])
  have other (mark : UInt8) (noDigit : isDigit mark = false) : first ≠ mark := by
    rintro rfl
    exact absurd digit (by simp [noDigit])
  have whole := readNumber_renderNatural fits ends
  rw [written, List.cons_append] at whole ⊢
  refine .token ?_ (fun fuel _ => ?_) (by simp) step
  · simp [isBlank, other 0x20 rfl, other 0x09 rfl, other 0x0a rfl, other 0x0d rfl]
  · simp [readToken, whole, other 0x7b rfl, other 0x7d rfl, other 0x5b rfl,
      other 0x5d rfl, other 0x2c rfl, other 0x3a rfl, other 0x22 rfl, other 0x6e rfl,
      other 0x74 rfl, other 0x66 rfl]

/-- The text of a value is run through, whatever follows it and whatever is open
around it. -/
def Value.ReadsBack (value : Value) : Prop :=
  ∀ rest, EndsNumber rest → ∀ stack mayClose,
    ReflTransGen Reads (value.render ++ rest, ⟨stack, .value mayClose⟩)
      (rest, afterValue stack value)

theorem endsNumber_cons {byte : UInt8} (rest : Bytes) (noDigit : isDigit byte = false)
    (noPoint : byte ≠ 0x2e) (noExponent : byte ≠ 0x65 ∧ byte ≠ 0x45) :
    EndsNumber (byte :: rest) := by
  rintro other ⟨⟩
  exact ⟨noDigit, noPoint, noExponent⟩

/-- The items of an array are run through one after the other. -/
theorem reads_renderItems {items : List Value} (nonempty : items ≠ [])
    (parts : ∀ item ∈ items, item.ReadsBack) (rest : Bytes) (done : List Value)
    (stack : List Frame) (mayClose : Bool) :
    ReflTransGen Reads (renderItems items ++ 0x5d :: rest,
      ⟨.array done :: stack, .value mayClose⟩)
      (0x5d :: rest, ⟨.array (items.reverse ++ done) :: stack, .separator⟩) := by
  induction items generalizing done mayClose with
  | nil => exact absurd rfl nonempty
  | cons item items inductionHypothesis =>
      have first := parts item List.mem_cons_self
      cases items with
      | nil => exact first _ (endsNumber_cons rest rfl (by decide) (by decide)) _ _
      | cons next items =>
          have others := inductionHypothesis (by simp)
            (fun item membership => parts item (List.mem_cons_of_mem _ membership))
            (item :: done) false
          have comma : Reads
              (0x2c :: (renderItems (next :: items) ++ 0x5d :: rest),
                ⟨.array (item :: done) :: stack, .separator⟩)
              (renderItems (next :: items) ++ 0x5d :: rest,
                ⟨.array (item :: done) :: stack, .value false⟩) :=
            reads_punctuation .comma _ rfl (fun _ => rfl) rfl
          simp only [renderItems, List.append_assoc, List.cons_append]
          refine (first _ (endsNumber_cons _ rfl (by decide) (by decide)) _ _).trans ?_
          refine .head comma ?_
          simpa using others

/-- A key is run through up to the value that belongs to it. -/
theorem reads_key (key : String) (rest : Bytes) (done : List (Option String × Value))
    (stack : List Frame) (mayClose : Bool) :
    ReflTransGen Reads
      (renderString key ++ 0x3a :: rest, ⟨.object done none :: stack, .key mayClose⟩)
      (rest, ⟨.object done (some key) :: stack, .value false⟩) := by
  have name : Reads
      (renderString key ++ 0x3a :: rest, ⟨.object done none :: stack, .key mayClose⟩)
      (0x3a :: rest, ⟨.object done (some key) :: stack, .colon⟩) :=
    reads_string key _ rfl
  exact .head name (.single (reads_punctuation .colon rest rfl (fun _ => rfl) rfl))

/-- The members of an object are run through one after the other. -/
theorem reads_renderMembers {members : List (String × Value)} (nonempty : members ≠ [])
    (parts : ∀ member ∈ members, member.2.ReadsBack) (rest : Bytes)
    (done : List (Option String × Value)) (stack : List Frame) (mayClose : Bool) :
    ReflTransGen Reads
      (renderMembers members ++ 0x7d :: rest, ⟨.object done none :: stack, .key mayClose⟩)
      (0x7d :: rest,
        ⟨.object ((members.map fun member => (some member.1, member.2)).reverse ++
          done) none :: stack, .separator⟩) := by
  induction members generalizing done mayClose with
  | nil => exact absurd rfl nonempty
  | cons member members inductionHypothesis =>
      obtain ⟨key, value⟩ := member
      have first : value.ReadsBack := parts (key, value) List.mem_cons_self
      cases members with
      | nil =>
          simp only [renderMembers, List.append_assoc, List.cons_append]
          exact (reads_key key _ done stack mayClose).trans
            (first _ (endsNumber_cons rest rfl (by decide) (by decide)) _ _)
      | cons next members =>
          have others := inductionHypothesis (by simp)
            (fun member membership => parts member (List.mem_cons_of_mem _ membership))
            ((some key, value) :: done) false
          have comma : Reads
              (0x2c :: (renderMembers (next :: members) ++ 0x7d :: rest),
                ⟨.object ((some key, value) :: done) none :: stack, .separator⟩)
              (renderMembers (next :: members) ++ 0x7d :: rest,
                ⟨.object ((some key, value) :: done) none :: stack, .key false⟩) :=
            reads_punctuation .comma _ rfl (fun _ => rfl) rfl
          simp only [renderMembers, List.append_assoc, List.cons_append]
          refine (reads_key key _ done stack mayClose).trans ?_
          refine (first _ (endsNumber_cons _ rfl (by decide) (by decide)) _ _).trans ?_
          refine .head comma ?_
          simpa using others

theorem mapM_map_eq_some_map {α β γ : Type} {convert : α → β} {read : β → Option γ}
    {result : α → γ} {values : List α}
    (reads : ∀ value ∈ values, read (convert value) = some (result value)) :
    (values.map convert).mapM read = some (values.map result) := by
  induction values with
  | nil => rfl
  | cons value values inductionHypothesis =>
      rw [List.map_cons, List.mapM_cons, reads value List.mem_cons_self,
        inductionHypothesis fun value membership =>
          reads value (List.mem_cons_of_mem _ membership)]
      rfl

theorem mapM_map_eq_some {α β : Type} {write : α → β} {read : β → Option α}
    {values : List α} (back : ∀ value ∈ values, read (write value) = some value) :
    (values.map write).mapM read = some values := by
  have read : (values.map write).mapM read = some (values.map id) :=
    mapM_map_eq_some_map back
  rwa [List.map_id] at read

theorem closeObject_reverse (members : List (String × Value)) :
    closeObject (members.map fun member => (some member.1, member.2)).reverse =
      .object members := by
  rw [closeObject, List.reverse_reverse, mapM_map_eq_some]
  exact fun member _ => rfl

theorem readsBack_array {items : List Value} (parts : ∀ item ∈ items, item.ReadsBack) :
    (Value.array items).ReadsBack := by
  intro rest _ stack mayClose
  have opened :
    Reads (0x5b :: (renderItems items ++ 0x5d :: rest), ⟨stack, .value mayClose⟩)
      (renderItems items ++ 0x5d :: rest, ⟨.array [] :: stack, .value true⟩) :=
    reads_punctuation .openArray _ rfl (fun _ => rfl) rfl
  simp only [Value.render, List.cons_append, List.append_assoc, List.nil_append]
  refine .head opened ?_
  cases items with
  | nil => exact .single (reads_punctuation .closeArray rest rfl (fun _ => rfl) rfl)
  | cons item items =>
      refine (reads_renderItems (by simp) parts rest [] stack true).trans (.single ?_)
      refine reads_punctuation .closeArray rest rfl (fun _ => rfl) ?_
      simp [Position.step, afterClose]

/-- The text of an object is run through, also if what follows it could go on
with a number. -/
theorem reads_object {members : List (String × Value)}
    (parts : ∀ member ∈ members, member.2.ReadsBack) (rest : Bytes) (stack : List Frame)
    (mayClose : Bool) :
    ReflTransGen Reads ((Value.object members).render ++ rest, ⟨stack, .value mayClose⟩)
      (rest, afterValue stack (.object members)) := by
  have opened :
    Reads (0x7b :: (renderMembers members ++ 0x7d :: rest), ⟨stack, .value mayClose⟩)
      (renderMembers members ++ 0x7d :: rest, ⟨.object [] none :: stack, .key true⟩) :=
    reads_punctuation .openObject _ rfl (fun _ => rfl) rfl
  simp only [Value.render, List.cons_append, List.append_assoc, List.nil_append]
  refine .head opened ?_
  cases members with
  | nil => exact .single (reads_punctuation .closeObject rest rfl (fun _ => rfl) rfl)
  | cons member members =>
      refine (reads_renderMembers (by simp) parts rest [] stack true).trans (.single ?_)
      refine reads_punctuation .closeObject rest rfl (fun _ => rfl) ?_
      simp only [Position.step, afterClose, List.append_nil, closeObject_reverse]

theorem readsBack_object {members : List (String × Value)}
    (parts : ∀ member ∈ members, member.2.ReadsBack) : (Value.object members).ReadsBack :=
  fun rest _ stack mayClose => reads_object parts rest stack mayClose

/-- The text of a plain value is run through. -/
theorem readsBack_of_plain {value : Value} (plain : value.Plain) : value.ReadsBack := by
  induction plain with
  | null =>
      exact fun rest ends stack mayClose =>
        .single (.token rfl (fun fuel _ => rfl) (Nat.le_add_right _ 3) rfl)
  | bool value =>
      cases value with
      | false =>
          exact fun rest ends stack mayClose =>
            .single (.token rfl (fun fuel _ => rfl) (Nat.le_add_right _ 4) rfl)
      | true =>
          exact fun rest ends stack mayClose =>
            .single (.token rfl (fun fuel _ => rfl) (Nat.le_add_right _ 3) rfl)
  | natural fits =>
      exact fun rest ends stack mayClose => .single (reads_natural fits ends rfl)
  | string text =>
      exact fun rest ends stack mayClose => .single (reads_string text rest rfl)
  | array _ inductionHypothesis => exact readsBack_array inductionHypothesis
  | object _ inductionHypothesis => exact readsBack_object inductionHypothesis

/-- A written value is read back. -/
theorem parse_render {value : Value} (plain : value.Plain) :
    parse value.render = some value := by
  have run := readsBack_of_plain plain [] (by simp [EndsNumber]) [] false
  rw [List.append_nil] at run
  exact parse_of_reads run

end ConfidentialToken.Json
