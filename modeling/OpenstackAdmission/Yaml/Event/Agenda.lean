import OpenstackAdmission.Yaml.Event.Goal

/-!
# The events of an agenda

An agenda is a list of goals that are read one after the other. Goals may add goals in front of it, but every
step brings it nearer to its end (`weight_read`): a token outweighs what it can add.
-/

namespace OpenstackAdmission.Yaml

namespace Goal

/-- What a goal may still cost without a token being read. -/
def weight : Goal → Nat
  | .content => 3
  | .node _ _ => 2
  | .blockItem _ | .hangingItem | .blockKey _ | .pairEnd => 1
  | .blockValue _ | .pairValue | .flowValue _ | .flowNoValue _ => 2
  | .flowItem _ isFirst => if isFirst then 4 else 1
  | .flowKey _ isFirst => if isFirst then 5 else 1
  | .pairKey => 5

/-- What goals may cost together. -/
def totalWeight : List Goal → Nat
  | [] => 0
  | goal :: rest => goal.weight + totalWeight rest

@[simp] theorem totalWeight_nil : totalWeight [] = 0 := rfl

@[simp] theorem totalWeight_cons (goal : Goal) (rest : List Goal) :
    totalWeight (goal :: rest) = goal.weight + totalWeight rest := rfl

@[simp] theorem totalWeight_append (goals later : List Goal) :
    totalWeight (goals ++ later) = totalWeight goals + totalWeight later := by
  induction goals with
  | nil => simp
  | cons goal rest ih => simp [ih, Nat.add_assoc]

end Goal

/-- How far an agenda is from its end. A token outweighs the goals that it can add. -/
def agendaWeight (goals : List Goal) (s : TokenStream) : Nat :=
  7 * s.tokens.length + Goal.totalWeight goals

namespace Goal

theorem length_rest_of_peek {s : TokenStream} {mark : Mark} {token : Token}
    (h : s.peek = .ok (mark, token)) (hne : token ≠ .streamEnd) :
    s.rest.tokens.length + 1 = s.tokens.length := by
  unfold TokenStream.peek at h
  split at h
  · next hs => simp [TokenStream.rest, hs]
  · cases hs : s.ending <;> simp [hs, Except.map] at h
    exact absurd h.2.symm hne

theorem length_rest_le (s : TokenStream) : s.rest.tokens.length ≤ s.tokens.length := by
  simp [TokenStream.rest]

theorem length_takeAnchor {s rest : TokenStream} {name : Option String}
    (h : takeAnchor s = .ok (name, rest)) : rest.tokens.length ≤ s.tokens.length := by
  unfold takeAnchor at h
  cases hp : s.peek with
  | error e => simp [hp, bind, Except.bind] at h
  | ok t =>
    simp only [hp, bind, Except.bind] at h
    split at h <;> simp [pure, Except.pure] at h <;> obtain ⟨_, rfl⟩ := h
    · exact length_rest_le s
    · exact Nat.le_refl _

theorem length_takeTag {s rest : TokenStream} {name : Option (Mark × TagName)}
    (h : takeTag s = .ok (name, rest)) : rest.tokens.length ≤ s.tokens.length := by
  unfold takeTag at h
  cases hp : s.peek with
  | error e => simp [hp, bind, Except.bind] at h
  | ok t =>
    simp only [hp, bind, Except.bind] at h
    split at h <;> simp [pure, Except.pure] at h <;> obtain ⟨_, rfl⟩ := h
    · exact length_rest_le s
    · exact Nat.le_refl _

theorem ok_of_bind {α β : Type} {x : Except SyntaxError α} {f : α → Except SyntaxError β} {b : β}
    (h : x >>= f = .ok b) : ∃ a, x = .ok a ∧ f a = .ok b := by
  cases x with
  | error e => cases h
  | ok a => exact ⟨a, rfl, h⟩

theorem length_takeProperties {shorthands : Shorthands} {start : Mark} {s rest : TokenStream}
    {p : Properties} (h : takeProperties shorthands start s = .ok (p, rest)) :
    rest.tokens.length ≤ s.tokens.length := by
  unfold takeProperties at h
  obtain ⟨⟨early, s₁⟩, h₁, h⟩ := ok_of_bind h
  obtain ⟨⟨tag, s₂⟩, h₂, h⟩ := ok_of_bind h
  obtain ⟨⟨anchor, s₃⟩, h₃, h⟩ := ok_of_bind h
  obtain ⟨_, _, h⟩ := ok_of_bind h
  obtain ⟨_, _, h⟩ := ok_of_bind h
  have h₁ := length_takeAnchor h₁
  have h₂ := length_takeTag h₂
  have h₃ : s₃.tokens.length ≤ s₂.tokens.length := by
    unfold takeLateAnchor at h₃
    split at h₃
    · exact length_takeAnchor h₃
    · cases h₃; exact Nat.le_refl _
  cases h
  omega

theorem weight_otherwise {block hanging : Bool} {start mark : Mark} {p : Properties}
    {s : TokenStream} {r : Reading} (h : readContent.otherwise block start p s mark = .ok r) :
    agendaWeight r.goals r.rest < agendaWeight [.node block hanging] s := by
  unfold readContent.otherwise at h
  split at h
  · cases h
  · cases h
    simp [agendaWeight, weight]

theorem weight_readContent {block hanging : Bool} {start : Mark} {p : Properties} {s : TokenStream}
    {r : Reading} (h : readContent block hanging start p s = .ok r) :
    agendaWeight r.goals r.rest < agendaWeight [.node block hanging] s := by
  unfold readContent at h
  obtain ⟨⟨mark, token⟩, hp, h⟩ := ok_of_bind h
  have shorter := fun hne => length_rest_of_peek hp hne
  -- a token that opens something is taken, and pays for the goals that take its place
  cases token with
  | scalar text plain =>
    have := shorter (by simp)
    cases h
    simp [agendaWeight, weight]
    omega
  | flowSequenceStart =>
    have := shorter (by simp)
    cases h
    simp [agendaWeight, weight]
    omega
  | flowMappingStart =>
    have := shorter (by simp)
    cases h
    simp [agendaWeight, weight]
    omega
  | hyphen =>
    cases hanging with
    | true =>
      cases h
      simp [agendaWeight, weight]
    | false => exact weight_otherwise h
  | blockSequenceStart =>
    cases block with
    | true =>
      have := shorter (by simp)
      cases h
      simp [agendaWeight, weight]
      omega
    | false => exact weight_otherwise h
  | blockMappingStart =>
    cases block with
    | true =>
      have := shorter (by simp)
      cases h
      simp [agendaWeight, weight]
      omega
    | false => exact weight_otherwise h
  | _ => exact weight_otherwise h

theorem weight_readNode {shorthands : Shorthands} {block hanging : Bool} {s : TokenStream}
    {r : Reading} (h : readNode shorthands block hanging s = .ok r) :
    agendaWeight r.goals r.rest < agendaWeight [.node block hanging] s := by
  unfold readNode at h
  obtain ⟨⟨mark, token⟩, hp, h⟩ := ok_of_bind h
  dsimp only at h
  split at h
  · have := length_rest_of_peek hp (by simp_all)
    cases h
    simp [agendaWeight, weight]
    omega
  · obtain ⟨⟨p, rest⟩, hr, h⟩ := ok_of_bind h
    have := length_takeProperties hr
    have := weight_readContent h
    simp only [agendaWeight] at this ⊢
    omega

theorem weight_nodeUnless {isMissing : Token → Bool} {node next : Goal} {s : TokenStream}
    {r : Reading} (h : nodeUnless isMissing node next s = .ok r) :
    agendaWeight r.goals r.rest ≤ agendaWeight [node, next] s := by
  unfold nodeUnless at h
  obtain ⟨_, _, h⟩ := ok_of_bind h
  dsimp only at h
  split at h <;> cases h <;> simp [agendaWeight]

/-- Behind a comma there is one token less; without one the goal is the first or the collection ends. -/
theorem length_dropComma {isFirst : Bool} {last : Token} {fault : Mark → SyntaxError}
    {s rest : TokenStream} (h : dropComma isFirst last fault s = .ok rest) :
    rest.tokens.length + 1 = s.tokens.length ∨
      (rest = s ∧ (isFirst = true ∨ ∃ mark, s.peek = .ok (mark, last))) := by
  unfold dropComma at h
  obtain ⟨⟨mark, token⟩, hp, h⟩ := ok_of_bind h
  dsimp only at h
  split at h
  · next hc =>
    cases h
    simp only [Bool.or_eq_true, decide_eq_true_eq] at hc
    refine .inr ⟨rfl, hc.imp_right ?_⟩
    rintro rfl
    exact ⟨mark, hp⟩
  · split at h
    · next hc => cases h; exact .inl (length_rest_of_peek hp (by simp [hc]))
    · cases h

theorem weight_readFlowItem {start : Mark} {s : TokenStream} {r : Reading}
    (h : readFlowItem start s = .ok r) :
    agendaWeight r.goals r.rest < agendaWeight [.flowItem start true] s ∧
      ((∃ mark, s.peek = .ok (mark, .flowSequenceEnd)) → agendaWeight r.goals r.rest <
        agendaWeight [.flowItem start false] s) := by
  unfold readFlowItem at h
  obtain ⟨⟨mark, token⟩, hp, h⟩ := ok_of_bind h
  dsimp only at h
  split at h
  · have := length_rest_of_peek hp (by simp)
    cases h
    simp only [agendaWeight, weight, totalWeight_cons, totalWeight_nil]
    constructor <;> intros <;> simp <;> omega
  · have := length_rest_of_peek hp (by simp)
    cases h
    simp only [agendaWeight, weight, totalWeight_cons, totalWeight_nil]
    constructor <;> intros <;> simp <;> omega
  · next hne _ =>
    cases h
    refine ⟨by simp [agendaWeight, weight], ?_⟩
    rintro ⟨_, he⟩
    rw [hp] at he
    simp_all

theorem weight_readFlowKey {start : Mark} {s : TokenStream} {r : Reading}
    (h : readFlowKey start s = .ok r) :
    agendaWeight r.goals r.rest < agendaWeight [.flowKey start true] s ∧
      ((∃ mark, s.peek = .ok (mark, .flowMappingEnd)) → agendaWeight r.goals r.rest <
        agendaWeight [.flowKey start false] s) := by
  unfold readFlowKey at h
  obtain ⟨⟨mark, token⟩, hp, h⟩ := ok_of_bind h
  dsimp only at h
  split at h
  · have := length_rest_of_peek hp (by simp)
    cases h
    simp only [agendaWeight, weight, totalWeight_cons, totalWeight_nil]
    constructor <;> intros <;> simp <;> omega
  · have := length_rest_of_peek hp (by simp)
    have hw := weight_nodeUnless h
    simp only [agendaWeight, weight, totalWeight_cons, totalWeight_nil] at hw ⊢
    constructor <;> intros <;> simp <;> omega
  -- no token is taken here, so the weight of the goal itself has to pay
  · next hne _ =>
    cases h
    refine ⟨by simp [agendaWeight, weight], ?_⟩
    rintro ⟨_, he⟩
    rw [hp] at he
    simp_all

/-- Every step brings the agenda nearer to its end. -/
theorem weight_read {shorthands : Shorthands} {goal : Goal} {s : TokenStream} {r : Reading}
    (h : goal.read shorthands s = .ok r) :
    agendaWeight r.goals r.rest < agendaWeight [goal] s := by
  unfold read at h
  obtain ⟨⟨mark, token⟩, hp, h⟩ := ok_of_bind h
  have shorter := fun hne => length_rest_of_peek hp hne
  -- either a token is taken, or the goals that replace this one weigh less
  cases goal with
  | content =>
    dsimp only at h
    split at h <;> cases h <;> simp [agendaWeight, weight]
  | node block hanging => exact weight_readNode h
  | blockItem start =>
    dsimp only at h
    split at h
    · have := shorter (by simp)
      have hw := weight_nodeUnless h
      simp [agendaWeight, weight] at hw ⊢
      omega
    · have := shorter (by simp)
      cases h
      simp [agendaWeight, weight]
      omega
    · cases h
  | hangingItem =>
    dsimp only at h
    split at h
    · have := shorter (by simp)
      have hw := weight_nodeUnless h
      simp [agendaWeight, weight] at hw ⊢
      omega
    · cases h
      simp [agendaWeight, weight]
  | blockKey start =>
    dsimp only at h
    split at h
    · have := shorter (by simp)
      have hw := weight_nodeUnless h
      simp [agendaWeight, weight] at hw ⊢
      omega
    · have := shorter (by simp)
      cases h
      simp [agendaWeight, weight]
      omega
    · cases h
  | blockValue start =>
    dsimp only at h
    split at h
    · have := shorter (by simp)
      have hw := weight_nodeUnless h
      simp [agendaWeight, weight] at hw ⊢
      omega
    · cases h
      simp [agendaWeight, weight]
  | flowItem start isFirst =>
    obtain ⟨rest, hd, h⟩ := ok_of_bind h
    have hw := weight_readFlowItem h
    rcases length_dropComma hd with hl | ⟨rfl, rfl | he⟩
    · cases isFirst <;> simp [agendaWeight, weight] at hw ⊢ <;> omega
    · exact hw.1
    · cases isFirst
      · exact hw.2 he
      · exact hw.1
  | pairKey =>
    dsimp only at h
    have := length_rest_le s
    split at h <;> cases h <;> simp [agendaWeight, weight]
    omega
  | pairValue =>
    dsimp only at h
    split at h
    · next ht =>
      have := shorter (by simp [ht])
      have hw := weight_nodeUnless h
      simp [agendaWeight, weight] at hw ⊢
      omega
    · cases h
      simp [agendaWeight, weight]
  | pairEnd =>
    cases h
    simp [agendaWeight, weight]
  | flowKey start isFirst =>
    obtain ⟨rest, hd, h⟩ := ok_of_bind h
    have hw := weight_readFlowKey h
    rcases length_dropComma hd with hl | ⟨rfl, rfl | he⟩
    · cases isFirst <;> simp [agendaWeight, weight] at hw ⊢ <;> omega
    · exact hw.1
    · cases isFirst
      · exact hw.2 he
      · exact hw.1
  | flowValue start =>
    dsimp only at h
    split at h
    · next ht =>
      have := shorter (by simp [ht])
      have hw := weight_nodeUnless h
      simp [agendaWeight, weight] at hw ⊢
      omega
    · cases h
      simp [agendaWeight, weight]
  | flowNoValue start =>
    cases h
    simp [agendaWeight, weight]

end Goal

/-- The events that the goals of an agenda ask for, and the tokens left or the fault that ended the
reading. -/
def readEvents (shorthands : Shorthands) (goals : List Goal) (s : TokenStream) :
    List (Mark × Event String) × Except SyntaxError TokenStream :=
  match goals with
  | [] => ([], .ok s)
  | goal :: later =>
    match _h : goal.read shorthands s with
    | .error e => ([], .error e)
    | .ok r =>
      let (events, ending) := readEvents shorthands (r.goals ++ later) r.rest
      (r.event.toList ++ events, ending)
termination_by agendaWeight goals s
decreasing_by
  have := Goal.weight_read ‹_›
  simp only [agendaWeight, Goal.totalWeight_append, Goal.totalWeight_cons,
    Goal.totalWeight_nil] at this ⊢
  omega

end OpenstackAdmission.Yaml
