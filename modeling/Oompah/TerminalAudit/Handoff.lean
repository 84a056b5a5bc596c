import Oompah.TerminalAudit.Application

/-!
# Handing a task to a human

The comment that hands a task to a human is composed so that it asks for something: its
text does, or the hint that is put behind it.  The check made before the result is settled
never refuses it.
-/

namespace Oompah
namespace TerminalAudit

open Foundation

/-!
# Texts that end in ink
-/

/-- The last character of the text is not blank. -/
def EndsInk (s : String) : Prop :=
  exists init c, s.toList = init ++ [c] ∧ Text.isSpace c = false

theorem EndsInk.append_left {s : String} (h : EndsInk s) (start : String) :
    EndsInk (start ++ s) := by
  obtain ⟨init, c, hs, hc⟩ := h
  refine ⟨start.toList ++ init, c, ?_, hc⟩
  rw [String.toList_append, hs, List.append_assoc]

theorem endsInk_joined {separator : String} {parts : List String} (hne : parts ≠ [])
    (h : forall part, part ∈ parts -> EndsInk part) : EndsInk (joined separator parts) := by
  induction parts with
  | nil => exact absurd rfl hne
  | cons part rest ih =>
    cases rest with
    | nil => exact h part (List.mem_singleton_self part)
    | cons next rest =>
      have hrest : EndsInk (joined separator (next :: rest)) :=
        ih (List.cons_ne_nil next rest) fun p hp => h p (List.mem_cons_of_mem _ hp)
      exact (hrest.append_left separator).append_left part

theorem strip_of_ends {s : String} {c : Char} {rest : List Char} (hs : s.toList = c :: rest)
    (hc : Text.isSpace c = false) (h : EndsInk s) : strip s = s := by
  obtain ⟨init, last, hlast, hink⟩ := h
  have hstripped : Text.Stripped Text.isSpace s.toList := by
    constructor
    · intro d hd
      rw [hs] at hd
      cases hd
      exact hc
    · intro d hd
      rw [hlast, List.getLast?_concat] at hd
      cases hd
      exact hink
  unfold strip
  rw [hstripped.strip_eq, String.ofList_toList]

theorem endsInk_strip {s : String} (h : strip s ≠ "") : EndsInk (strip s) := by
  have hne : (strip s).toList ≠ [] := by
    intro hnil
    apply h
    rw [← String.ofList_toList (s := strip s), hnil]
  have hstripped : Text.Stripped Text.isSpace (strip s).toList := by
    unfold strip
    rw [String.toList_ofList]
    exact Text.strip_stripped _
  refine ⟨(strip s).toList.dropLast, (strip s).toList.getLast hne, ?_, ?_⟩
  · exact (List.dropLast_append_getLast hne).symm
  · exact hstripped.right _ (List.getLast?_eq_some_getLast hne)

section Comments

variable {t : CharacterTable} {result : AuditResult}

theorem endsInk_sanitizeLine {value : String} (h : strip value ≠ "") :
    EndsInk (sanitizeLine t value) := by
  unfold sanitizeLine redactForStorage
  split
  · exact ⟨"[REDACTED".toList, ']', rfl, rfl⟩
  · exact endsInk_strip h

theorem endsInk_listed {title part : String} {items : List String}
    (h : part ∈ listed t title items) : EndsInk part := by
  unfold listed at h
  dsimp only at h
  split at h
  · cases h
  · rename_i hlines
    rw [List.mem_singleton] at h
    rw [h]
    apply EndsInk.append_left
    apply endsInk_joined
    · intro hnil
      apply hlines
      rw [List.isEmpty_iff]
      exact List.map_eq_nil_iff.mp hnil
    · intro line hline
      obtain ⟨text, htext, rfl⟩ := List.mem_map.mp hline
      obtain ⟨item, hitem, rfl⟩ := List.mem_map.mp htext
      have hblank := of_decide_eq_true (List.mem_filter.mp hitem).2
      exact (endsInk_sanitizeLine hblank).append_left _

variable (t) in
theorem endsInk_appendResultContext (result : AuditResult) {body : String} (h : EndsInk body) :
    EndsInk (appendResultContext t body result) := by
  apply endsInk_joined (List.cons_ne_nil _ _)
  intro part hpart
  rcases List.mem_cons.mp hpart with rfl | hpart
  · exact h
  · rcases List.mem_append.mp hpart with hpart | hpart
    · exact endsInk_listed hpart
    · exact endsInk_listed hpart

/-- The hint asks for something wherever it stands. -/
theorem found_hint (before : Option Char) :
    actionRequest.found t.isWord before needsHumanHint.toList = true := by
  have hrest : actionRequest.found t.isWord (some ' ') needsHumanHint.toList.tail = true := by
    rw [found_ascii actionRequest rfl rfl]
    rfl
  have hhint : needsHumanHint.toList = ' ' :: needsHumanHint.toList.tail := rfl
  rw [hhint]
  unfold Pattern.found
  rw [hrest, Bool.or_true]

theorem validNeedsHumanComment_of {comment : String} {rest : List Char}
    (hstart : comment.toList = 'N' :: rest) (hends : EndsInk comment)
    (hfound : actionRequest.found t.isWord none comment.toList = true) :
    validNeedsHumanComment t comment = true := by
  have hstrip : strip comment = comment := strip_of_ends hstart rfl hends
  have hne : comment ≠ "" := by
    intro h
    rw [h] at hstart
    cases hstart
  unfold validNeedsHumanComment
  rw [hstrip, hfound, Bool.and_true]
  exact decide_eq_true hne

/-- The comment that hands a task to a human is actionable. -/
theorem composeNeedsHumanMessage_valid :
    validNeedsHumanComment t (composeNeedsHumanMessage t result) = true := by
  unfold composeNeedsHumanMessage
  dsimp only
  generalize hmessage : (if result.message = "" then "" else sanitizeLine t result.message) =
    message
  have hbody : EndsInk
      (if message = "" then "The auditor could not produce a safe verdict." else message) := by
    split
    · exact ⟨"The auditor could not produce a safe verdict".toList, '.', rfl, rfl⟩
    · rename_i hne
      rw [← hmessage] at hne ⊢
      split at hne
      · exact absurd rfl hne
      · rename_i hresult
        rw [if_neg hresult]
        apply endsInk_sanitizeLine
        intro hblank
        apply hne
        unfold sanitizeLine
        rw [hblank]
        exact (storable_of_ascii (t := t) rfl rfl : Storable t "")
  have hcontext := endsInk_appendResultContext t result hbody
  generalize appendResultContext t
    (if message = "" then "The auditor could not produce a safe verdict." else message)
      result = context at hcontext
  have hends : EndsInk ("Needs Human — " ++ result.targetState.value ++
      " audit requires operator input." ++ ("\n\n" ++ context)) :=
    (hcontext.append_left _).append_left _
  have hstart : exists rest, ("Needs Human — " ++ result.targetState.value ++
      " audit requires operator input." ++ ("\n\n" ++ context)).toList = 'N' :: rest := by
    rw [String.toList_append, String.toList_append, String.toList_append]
    exact ⟨_, rfl⟩
  obtain ⟨rest, hstart⟩ := hstart
  generalize "Needs Human — " ++ result.targetState.value ++
    " audit requires operator input." ++ ("\n\n" ++ context) = combined at hends hstart
  split
  · rename_i hfound
    exact validNeedsHumanComment_of hstart hends hfound
  · obtain ⟨init, last, hlast, hink⟩ := hends
    have hrstrip : rstrip combined = combined := by
      unfold rstrip
      rw [hlast, List.rdropWhile_concat_neg _ _ _ (by rw [hink]; exact Bool.false_ne_true),
        ← hlast, String.ofList_toList]
    rw [hrstrip]
    apply validNeedsHumanComment_of
    · rw [String.toList_append, hstart]
      rfl
    · exact EndsInk.append_left ⟨needsHumanHint.toList.dropLast, '.', rfl, rfl⟩ combined
    · rw [String.toList_append]
      exact Pattern.found_append found_hint _ _

end Comments

/-- No result is refused because of the comment that hands its task to a human. -/
theorem handoffRefused_false (rt : AuditRuntime) (result : AuditResult) :
    handoffRefused rt result = false := by
  unfold handoffRefused
  rw [composeNeedsHumanMessage_valid, Bool.not_true, Bool.and_false]

end TerminalAudit
end Oompah
