/-
# Contexts on top of one another

A context on top of another wins under common names, and this is all that counts: a context is
determined by what is found in it. So contexts form a monoid in which everything is idempotent, and
contexts without a common name may be put on top of each other either way. A prompt is determined by
the context in the same sense. It has one item for every name, in the order of the bytes of the
names, and does not show in which order a document listed them.
-/

import Ensemble.Agent.Prompt
import Ensemble.Proofs.Document.Reordering
import Ensemble.Proofs.Text.Bytes

namespace Ensemble

/-! ## Keys -/

namespace Dictionary

variable {α : Type}

/-- The keys ascend in the order of their bytes. -/
theorem bytes_keys_ascend (dictionary : Dictionary α) :
    (dictionary.keys.map Text.bytes).Pairwise (· < ·) := by
  rw [List.pairwise_map, keys, List.pairwise_map]
  exact dictionary.ascend.imp Text.bytes_lt

theorem mem_keys_iff_get? {dictionary : Dictionary α} {key : String} :
    key ∈ dictionary.keys ↔ dictionary.get? key ≠ none := by
  rw [keys, List.mem_map, Option.ne_none_iff_exists']
  constructor
  · rintro ⟨⟨found, value⟩, hmem, rfl⟩
    exact ⟨value, get?_eq_some_iff.2 hmem⟩
  · rintro ⟨value, hvalue⟩
    exact ⟨(key, value), get?_eq_some_iff.1 hvalue, rfl⟩

theorem get?_ofList_of_not_mem {entries : List (String × α)}
    (hdistinct : (entries.map Prod.fst).Nodup) {key : String} (h : key ∉ entries.map Prod.fst) :
    (ofList entries).get? key = none := by
  rw [Option.eq_none_iff_forall_ne_some]
  intro value hvalue
  exact h (List.mem_map_of_mem ((get?_ofList_eq_some_iff hdistinct).1 hvalue))

end Dictionary

/-! ## What a prompt lists -/

namespace Prompt

/-- The item of a name of a context. -/
def item (context : Context) (key : String) : String :=
  "- " ++ key ++ ": " ++ (context.get? key).elim "" dataText

/-- The part of a prompt that lists a context under some names; no part when there is no name. -/
def listing (context : Context) (keys : List String) : List String :=
  if keys = [] then [] else ["Context:\n" ++ "\n".intercalate (keys.map (item context))]

/-- A prompt lists its context under all its names. -/
theorem contextPart_eq_listing (context : Context) :
    contextPart (some context) = listing context context.keys := by
  have hitems : context.keys.map (item context) = context.entries.map contextLine := by
    rw [Dictionary.keys, List.map_map]
    refine List.map_congr_left fun entry hentry => ?_
    rw [Function.comp_apply, item, Dictionary.get?_eq_some_iff.2 hentry]
    rfl
  rw [contextPart, listing, hitems, Dictionary.isEmpty, Dictionary.keys]
  simp only [List.isEmpty_iff, List.map_eq_nil_iff]
  rfl

end Prompt

/-! ## The laws -/

namespace Context

/-- No name is in both contexts. -/
def Disjoint (left right : Context) : Prop :=
  ∀ key, left.get? key = none ∨ right.get? key = none

/-- A name is in one of two contexts when it is in both on top of each other. -/
theorem mem_keys_overlay_iff {base top : Context} {key : String} :
    key ∈ (base.overlay (some top)).keys ↔ base.get? key ≠ none ∨ top.get? key ≠ none := by
  rw [Dictionary.mem_keys_iff_get?, get?_overlay, Option.bind_some]
  cases top.get? key <;> simp

/-- Under every name what is on top is found first. To put contexts on top of one another is
associative and idempotent, with the empty context, or none, changing nothing; and contexts without
a common name may be put on top of each other either way. A prompt depends on nothing but what is
found in its context: it has one item for every name, in ascending order of the bytes of the names,
and is the same when the members of the documents are written in another order at any depth. -/
theorem overlay_determines_prompts (a b c : Context) (name role instructions task : String) :
    (∀ key, (a.overlay (some b)).get? key = (b.get? key).or (a.get? key)) ∧
    (a.overlay (some b)).overlay (some c) = a.overlay (some (b.overlay (some c))) ∧
    a.overlay (some a) = a ∧ a.overlay (some ∅) = a ∧ overlay ∅ (some a) = a ∧ a.overlay none = a ∧
    (a.Disjoint b → a.overlay (some b) = b.overlay (some a)) ∧
    (∀ other : Context, (∀ key, other.get? key = (a.overlay (some b)).get? key) →
      Prompt.compose name role instructions (some other) task =
        Prompt.compose name role instructions (some (a.overlay (some b))) task) ∧
    (∀ base base' top top' : Value, base.KeysDistinct → top.KeysDistinct →
      Value.Reordered base base' → Value.Reordered top top' →
      decode base = .ok a → decode top = .ok b →
      ∃ a' b', decode base' = .ok a' ∧ decode top' = .ok b' ∧
        Prompt.compose name role instructions (some (a'.overlay (some b'))) task =
          Prompt.compose name role instructions (some (a.overlay (some b))) task) ∧
    ∃ keys : List String, (keys.map Text.bytes).Pairwise (· < ·) ∧
      (∀ key, key ∈ keys ↔ a.get? key ≠ none ∨ b.get? key ≠ none) ∧
      Prompt.compose name role instructions (some (a.overlay (some b))) task =
        "\n\n".intercalate (Prompt.identity name role instructions ::
          Prompt.listing (a.overlay (some b)) keys ++ ["Task: " ++ task]) := by
  refine ⟨get?_overlay a (some b), Dictionary.merge_assoc a b c, Dictionary.merge_self a, rfl,
    Dictionary.empty_merge a, rfl, Dictionary.merge_comm, ?_, ?_, ?_⟩
  · intro other hsame
    rw [Dictionary.ext_get? hsame]
  · intro base base' top top' hbase htop hbase' htop' hread hread'
    exact ⟨a, b, decode_of_reordered hbase hbase' hread, decode_of_reordered htop htop' hread', rfl⟩
  · refine ⟨(a.overlay (some b)).keys, Dictionary.bytes_keys_ascend _,
      fun _ => mem_keys_overlay_iff, ?_⟩
    rw [Prompt.compose, Prompt.contextPart_eq_listing]

/-- What a text is to be about. -/
def outline : Value :=
  .record [("topic", .text "ownership"),
    ("limits", .record [("words", .number (.integer 300)), ("code", .boolean false)])]

/-- The same in another order at both depths. -/
def outlineReordered : Value :=
  .record [("limits", .record [("code", .boolean false), ("words", .number (.integer 300))]),
    ("topic", .text "ownership")]

/-- Whom the text is for. -/
def readers : Value :=
  .record [("audience", .text "beginners")]

theorem keysDistinct_outline : outline.KeysDistinct := by
  refine .record (by decide) fun member hmember => ?_
  simp only [List.mem_cons, List.not_mem_nil, or_false] at hmember
  rcases hmember with rfl | rfl
  · exact .text _
  · refine .record (by decide) fun limit hlimit => ?_
    simp only [List.mem_cons, List.not_mem_nil, or_false] at hlimit
    rcases hlimit with rfl | rfl
    · exact .number _
    · exact .boolean _

theorem keysDistinct_readers : readers.KeysDistinct := by
  refine .record (by decide) fun member hmember => ?_
  obtain rfl := List.mem_singleton.1 hmember
  exact .text _

theorem reordered_outline : Value.Reordered outline outlineReordered :=
  .trans (.inMember [("topic", .text "ownership")] [] "limits" (.members (.swap _ _ [])))
    (.members (.swap _ _ []))

/-- A text about ownership in two spellings, and those whom it is for. -/
theorem overlay_determines_prompts_outline :
    ∃ a b : Context, a.Disjoint b ∧ a.overlay (some b) = b.overlay (some a) ∧
      outline.KeysDistinct ∧ readers.KeysDistinct ∧ Value.Reordered outline outlineReordered ∧
      decode outline = .ok a ∧ decode readers = .ok b ∧
      ∃ a' b', decode outlineReordered = .ok a' ∧ decode readers = .ok b' ∧
        Prompt.compose "writer" "" "" (some (a'.overlay (some b'))) "Draft" =
          "You are writer.\n\nContext:\n- audience: beginners\n" ++
            "- limits: \x7b\"code\":false,\"words\":300\x7d\n- topic: ownership\n\nTask: Draft" := by
  have houtline := decode_record [("topic", .text "ownership"),
    ("limits", .record [("words", .number (.integer 300)), ("code", .boolean false)])]
  have hreaders := decode_record [("audience", .text "beginners")]
  have hdisjoint : Disjoint
      (.ofList [("topic", Datum.ofValue (.text "ownership")), ("limits", Datum.ofValue (.record
        [("words", .number (.integer 300)), ("code", .boolean false)]))])
      (.ofList [("audience", Datum.ofValue (.text "beginners"))]) := by
    intro key
    by_cases hkey : key = "audience"
    · subst hkey
      exact Or.inl (Dictionary.get?_ofList_of_not_mem (by decide) (by decide))
    · exact Or.inr (Dictionary.get?_ofList_of_not_mem (by decide) (by simpa using hkey))
  obtain ⟨-, -, -, -, -, -, hcommutes, -, hsame, -⟩ :=
    overlay_determines_prompts _ _ ∅ "writer" "" "" "Draft"
  obtain ⟨a', b', houtline', hreaders', hprompt⟩ := hsame outline outlineReordered readers readers
    keysDistinct_outline keysDistinct_readers reordered_outline (.refl _) houtline hreaders
  refine ⟨_, _, hdisjoint, hcommutes hdisjoint, keysDistinct_outline, keysDistinct_readers,
    reordered_outline, houtline, hreaders, a', b', houtline', hreaders', hprompt.trans ?_⟩
  decide +kernel

end Context

end Ensemble
