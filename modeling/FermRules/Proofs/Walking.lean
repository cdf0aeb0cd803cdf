import FermRules.Proofs.Continuing

/-! # Reading tokens by their positions

A rule is read here without taking its tokens apart, by moving a position over
them. A walk has no result where it looks at a token that is not there, where it
wants the first of no items, where no shape fits, or where it turns in a loop
without end. For keywords that take a fixed number of parameters, but never none,
this does not happen: a walk `Follows` the reader of the tokens that are left,
through the same faults to the same values. -/
namespace FermRules

theorem Value.readFixed_succ (option : String) (count : Nat) (tokens : List Token) :
    Value.readFixed option (count + 1) tokens = do
      let (t, rest) ← Value.readWord option tokens
      let (items, rest) ← Value.readFixed option count rest
      return (t.text :: items, rest) := by
  cases tokens with
  | nil => rfl
  | cons t rest =>
    by_cases hle : count ≤ rest.length
    · simp [Value.readFixed, Value.readWord, hle, bind, Except.bind, pure, Except.pure]
    · simp [Value.readFixed, Value.readWord, hle, bind, Except.bind]

/-- A reader that moves a position over the tokens. -/
structure Walk (α : Type) where
  run : List Token → Nat → Option (Except RuleFault (α × Nat))

namespace Walk

variable {α β : Type}

instance : Monad Walk where
  pure a := ⟨fun _ pos => some (.ok (a, pos))⟩
  bind walk next := ⟨fun tokens pos =>
    match walk.run tokens pos with
    | none => none
    | some (.error fault) => some (.error fault)
    | some (.ok (a, pos)) => (next a).run tokens pos⟩

def broken : Walk α := ⟨fun _ _ => none⟩

def lift (result : Except RuleFault α) : Walk α := ⟨fun _ pos => some (result.map (·, pos))⟩

def exhausted : Walk Bool := ⟨fun tokens pos => some (.ok (tokens.length ≤ pos, pos))⟩

def current : Walk Token := ⟨fun tokens pos => tokens[pos]?.map fun t => .ok (t, pos)⟩

/-- The token at the position, if there is one. -/
def peek : Walk (Option Token) := do
  if ← exhausted then return none else return some (← current)

def next : Walk Token := ⟨fun tokens pos => tokens[pos]?.map fun t => .ok (t, pos + 1)⟩

def take (option : String) : Walk Token := do
  if ← exhausted then lift (.error (.missingParameter option)) else next

/-! ## Values -/

/-- Each turn takes a token, so the loop ends where the tokens do. -/
def itemsFrom (option : String) (text : List Char) (quoted : Bool) (tokens : List Token)
    (pos : Nat) : Option (Except RuleFault (List String × Nat)) :=
  if !quoted && text.getLast? = some ')' then
    some (.ok (Value.arrayItem text.dropLast false, pos))
  else if tokens.length ≤ pos then some (.error (.unclosedArray option))
  else
    match _h : tokens[pos]? with
    | none => none
    | some t =>
      (itemsFrom option t.text.toList t.quoted tokens (pos + 1)).map fun result =>
        result.map fun (items, last) => (Value.arrayItem text quoted ++ items, last)
termination_by tokens.length - pos
decreasing_by
  have := (List.getElem?_eq_some_iff.mp _h).1
  omega

def readArray (option : String) (first : Token) : Walk (List String) :=
  ⟨itemsFrom option first.text.toList.tail false⟩

def readList (option : String) (t : Token) : Walk (List String) :=
  if Value.opensArray t then readArray option t
  else if t.quoted then return [t.text]
  else return (t.text.toList.splitOn ',').map String.ofList

def takeList (option : String) : Walk (List String) := do
  let t ← take option
  readList option t

def readFixed (option : String) : Nat → Walk (List String)
  | 0 => return []
  | count + 1 => do
    let t ← take option
    let items ← readFixed option count
    return t.text :: items

/-- A single item is a scalar. Of no items there is no first one. -/
def ofFixed : List String → Walk Value
  | [] => broken
  | [text] => return .scalar text
  | items => return .list items

def readField (option : String) (field : FieldShape) : Walk Value :=
  if field = .list then do
    let items ← takeList option
    return .list items
  else do
    let t ← take option
    return .scalar t.text

def readFields (option : String) : List FieldShape → Walk (List Value)
  | [] => return []
  | field :: fields => do
    let part ← readField option field
    let parts ← readFields option fields
    return part :: parts

/-- One shape after the other is tried. -/
def readValue (k : Keyword) : Walk Value :=
  if k.shape = .flag then return .absent
  else if k.shape = .literal then do
    let t ← take k.name
    return .scalar t.text
  else if k.shape = .scalar then do
    let t ← take k.name
    if Value.opensArray t then return .list (← readArray k.name t) else return .scalar t.text
  else if k.shape = .list then do
    let items ← takeList k.name
    return .list items
  else if k.shape = .fixed k.shape.arity then do
    let items ← readFixed k.name k.shape.arity
    ofFixed items
  else if k.shape = .composite k.shape.fields then do
    let parts ← readFields k.name k.shape.fields
    return .composite parts
  else broken

/-! ## Rules -/

/-- A marker that follows is read along with the polarity. -/
def readPolarity (k : Keyword) (negated : Bool) : Walk Polarity :=
  if negated && k.negation ≠ .before then lift (.error (.leadingNegation k.name))
  else do
    let following ← peek
    if k.shape ≠ .flag && following.any Token.isNegation then
      if k.negation ≠ .after then lift (.error (.trailingNegation k.name))
      else do
        let _ ← next
        return .trailing
    else return if negated then .leading else .plain

def readOption (registry : Registry) (k : Keyword) (r : Reading) : Walk Reading := do
  let polarity ← readPolarity k r.negated
  let value ← readValue k
  return ({ r with negated := false }.learn registry k polarity value).push
    ⟨k.name, polarity.wrap value, some k⟩

def readModules (registry : Registry) (r : Reading) : Walk Reading :=
  if r.negated then lift (.error .negatedModule)
  else do
    let names ← takeList matchKeyword.name
    return r.addModules registry names

def step (registry : Registry) (r : Reading) : Walk Reading := do
  let t ← next
  match ← lift (r.opening registry t) with
  | .negation => lift r.negate
  | .option k => readOption registry k r
  | .modules => readModules registry r
  | .action kind => do
    let target ← take kind.name
    lift (r.act registry kind target.text)
  | .target name => lift (r.act registry .jump name)
  | .nothing => return r

/-- Goes on until the tokens are exhausted, at most for this number of turns. -/
def steps (registry : Registry) : Nat → Reading → Walk Reading
  | 0, _ => broken
  | turns + 1, r => do
    if ← exhausted then return r
    else
      let r ← step registry r
      steps registry turns r

/-- No more turns are needed than there are tokens, and one to see that none is left. -/
def parse (registry : Registry) (tokens : List Token) : Option (Except RuleFault LeafRule) :=
  let tokens := LeafRule.dropTerminator tokens
  ((steps registry (tokens.length + 1) (Reading.start registry)).run tokens 0).map fun result => do
    let (r, _) ← result
    r.finish

/-! ## Following a reader -/

/-- The walk ends in the fault of the reader, or with its value where its rest begins. -/
inductive Agrees (tokens : List Token) :
    Option (Except RuleFault (α × Nat)) → Except RuleFault (α × List Token) → Prop
  | error (fault : RuleFault) : Agrees tokens (some (.error fault)) (.error fault)
  | ok (a : α) {pos : Nat} : pos ≤ tokens.length →
      Agrees tokens (some (.ok (a, pos))) (.ok (a, tokens.drop pos))

def Follows (walk : Walk α) (reader : List Token → Except RuleFault (α × List Token)) : Prop :=
  ∀ tokens pos, pos ≤ tokens.length →
    Agrees tokens (walk.run tokens pos) (reader (tokens.drop pos))

theorem run_bind (walk : Walk α) (more : α → Walk β) (tokens : List Token) (pos : Nat) :
    (walk >>= more).run tokens pos
      = match walk.run tokens pos with
        | none => none
        | some (.error fault) => some (.error fault)
        | some (.ok (a, pos)) => (more a).run tokens pos := rfl

theorem Agrees.map {tokens : List Token} {outcome : Option (Except RuleFault (α × Nat))}
    {result : Except RuleFault (α × List Token)} (h : Agrees tokens outcome result) (f : α → β) :
    Agrees tokens (outcome.map fun last => last.map fun (a, pos) => (f a, pos))
      (result >>= fun (a, rest) => .ok (f a, rest)) := by
  cases h with
  | error fault => exact .error fault
  | ok a hpos => exact .ok (f a) hpos

namespace Follows

theorem bindOk {walk : Walk α} {more : α → Walk β}
    {reader : List Token → Except RuleFault (α × List Token)}
    {after : α × List Token → Except RuleFault (β × List Token)} (h : Follows walk reader)
    (hmore : ∀ a tokens rest, reader tokens = .ok (a, rest) →
      Follows (more a) fun rest => after (a, rest)) :
    Follows (walk >>= more) fun tokens => reader tokens >>= after := by
  intro tokens pos hpos
  have hfirst := h tokens pos hpos
  change Agrees tokens _ (reader (tokens.drop pos) >>= after)
  rw [run_bind]
  generalize walk.run tokens pos = outcome at hfirst
  generalize hresult : reader (tokens.drop pos) = result at hfirst
  cases hfirst with
  | error fault => exact .error fault
  | ok a hlast => exact hmore a _ _ hresult tokens _ hlast

theorem bind {walk : Walk α} {more : α → Walk β}
    {reader : List Token → Except RuleFault (α × List Token)}
    {after : α × List Token → Except RuleFault (β × List Token)} (h : Follows walk reader)
    (hmore : ∀ a, Follows (more a) fun rest => after (a, rest)) :
    Follows (walk >>= more) fun tokens => reader tokens >>= after :=
  h.bindOk fun a _ _ _ => hmore a

theorem pure (a : α) : Follows (pure a) fun tokens => .ok (a, tokens) :=
  fun _ _ hpos => .ok a hpos

theorem lift (result : Except RuleFault α) :
    Follows (lift result) fun tokens => do return (← result, tokens) := by
  intro tokens pos hpos
  cases result with
  | error fault => exact .error fault
  | ok a => exact .ok a hpos

end Follows

theorem run_exhausted (tokens : List Token) (pos : Nat) (more : Bool → Walk α) :
    (exhausted >>= more).run tokens pos = (more (tokens.length ≤ pos)).run tokens pos := rfl

theorem run_next {tokens : List Token} {pos : Nat} (h : pos < tokens.length) :
    next.run tokens pos = some (.ok (tokens[pos], pos + 1)) := by
  simp only [next, List.getElem?_eq_getElem h, Option.map_some]

theorem take_follows (option : String) : Follows (take option) (Value.readWord option) := by
  intro tokens pos hpos
  rw [take, run_exhausted]
  by_cases h : pos < tokens.length
  · rw [if_neg (by simpa using h), run_next h, List.drop_eq_getElem_cons h]
    exact .ok _ h
  · rw [if_pos (by simpa using h), List.drop_eq_nil_of_le (Nat.le_of_not_lt h)]
    exact .error _

theorem itemsFrom_agrees (option : String) (text : List Char) (quoted : Bool)
    (tokens : List Token) (pos : Nat) (hpos : pos ≤ tokens.length) :
    Agrees tokens (itemsFrom option text quoted tokens pos)
      (Value.readItems option text quoted (tokens.drop pos)) := by
  fun_induction itemsFrom option text quoted tokens pos with
  | case1 text quoted pos hclosed =>
    rw [Value.readItems.eq_def, if_pos hclosed]
    exact .ok _ hpos
  | case2 text quoted pos hopen hend =>
    rw [Value.readItems.eq_def, if_neg hopen, List.drop_eq_nil_of_le hend]
    exact .error _
  | case3 text quoted pos hopen hmore hnone =>
    exact absurd (List.getElem?_eq_none_iff.mp hnone) hmore
  | case4 text quoted pos hopen hmore t ht ih =>
    obtain ⟨hlt, rfl⟩ := List.getElem?_eq_some_iff.mp ht
    rw [Value.readItems.eq_def, if_neg hopen, List.drop_eq_getElem_cons hlt]
    exact (ih hlt).map fun items => Value.arrayItem text quoted ++ items

theorem readArray_follows (option : String) (first : Token) :
    Follows (readArray option first) (Value.readArray option first) :=
  itemsFrom_agrees option _ false

theorem takeList_follows (option : String) :
    Follows (takeList option) (Value.readList option) := by
  refine (take_follows option).bind fun t => ?_
  dsimp only [readList]
  split
  · exact readArray_follows option t
  · split
    · exact .pure _
    · exact .pure _

theorem readFixed_follows (option : String) (count : Nat) :
    Follows (readFixed option count) (Value.readFixed option count) := by
  induction count with
  | zero => exact .pure []
  | succ count ih =>
    have hreader : Value.readFixed option (count + 1) = fun tokens => _ :=
      funext (Value.readFixed_succ option count)
    rw [hreader]
    exact (take_follows option).bind fun t => ih.bind fun items => .pure _

theorem ofFixed_follows {items : List String} (h : items ≠ []) :
    Follows (ofFixed items) fun tokens => .ok (Value.ofFixed items, tokens) := by
  unfold ofFixed Value.ofFixed
  split
  · exact absurd rfl h
  · exact .pure _
  · rename_i hne
    split
    · exact absurd rfl (hne _)
    · exact .pure _

theorem readField_follows (option : String) (field : FieldShape) :
    Follows (readField option field) (Value.readField option · field) := by
  cases field with
  | scalar => exact (take_follows option).bind fun t => .pure _
  | list => exact (takeList_follows option).bind fun items => .pure _

theorem readFields_follows (option : String) (fields : List FieldShape) :
    Follows (readFields option fields) (Value.readFields option · fields) := by
  induction fields with
  | nil => exact .pure []
  | cons field fields ih =>
    exact (readField_follows option field).bind fun part => ih.bind fun parts => .pure _

theorem readValue_follows {k : Keyword} (hk : k.shape ≠ .fixed 0) :
    Follows (readValue k) (Value.read k) := by
  unfold readValue Value.read
  cases hshape : k.shape with
  | flag => exact .pure _
  | literal => exact (take_follows k.name).bind fun t => .pure _
  | scalar =>
    refine (take_follows k.name).bind fun t => ?_
    dsimp only
    split
    · exact (readArray_follows k.name t).bind fun items => .pure _
    · exact .pure _
  | list => exact (takeList_follows k.name).bind fun items => .pure _
  | fixed count =>
    have hfixed : Shape.fixed count = .fixed (Shape.fixed count).arity := rfl
    rw [if_neg nofun, if_neg nofun, if_neg nofun, if_neg nofun, if_pos hfixed]
    have hany : ∀ us : List Token, Token.AllOver (fun _ => True) us := fun _ _ _ _ _ => trivial
    refine (readFixed_follows k.name count).bindOk fun items tokens rest h => ?_
    obtain ⟨-, hlength, -⟩ := Value.readFixed_ok (hany tokens) h
    refine ofFixed_follows ?_
    rintro rfl
    exact hk (by rw [hshape, ← hlength]; rfl)
  | composite fields =>
    have hcomposite : Shape.composite fields = .composite (Shape.composite fields).fields := rfl
    rw [if_neg nofun, if_neg nofun, if_neg nofun, if_neg nofun, if_neg nofun, if_pos hcomposite]
    exact (readFields_follows k.name fields).bind fun parts => .pure _

theorem run_peek (tokens : List Token) (pos : Nat) :
    peek.run tokens pos = some (.ok (tokens[pos]?, pos)) := by
  rw [peek, run_exhausted]
  by_cases h : pos < tokens.length
  · rw [if_neg (by simpa using h), run_bind]
    simp only [current, List.getElem?_eq_getElem h, Option.map_some]
    rfl
  · rw [if_pos (by simpa using h), List.getElem?_eq_none (Nat.le_of_not_lt h)]
    rfl

theorem negationFollows_drop (tokens : List Token) (pos : Nat) :
    Polarity.negationFollows (tokens.drop pos) = tokens[pos]?.any Token.isNegation := by
  rw [← List.head?_drop]
  cases tokens.drop pos <;> rfl

/-- The marker behind an option is passed over once the polarity is known. -/
theorem readPolarity_follows (k : Keyword) (negated : Bool) :
    Follows (readPolarity k negated) fun tokens => do
      let p ← Polarity.read k negated tokens
      return (p, p.skip tokens) := by
  intro tokens pos hpos
  unfold readPolarity
  dsimp only [Polarity.read]
  split
  · exact .error _
  rw [run_bind, run_peek, negationFollows_drop]
  dsimp only
  split
  · rename_i hmarker
    by_cases hafter : k.negation = .after
    · have hlt : pos < tokens.length := by
        obtain ⟨t, ht, -⟩ := (Option.any_eq_true _ _).mp (Bool.and_eq_true_iff.mp hmarker).2
        exact (List.getElem?_eq_some_iff.mp ht).1
      rw [if_neg (not_not.mpr hafter), if_pos hafter, run_bind, run_next hlt,
        List.drop_eq_getElem_cons hlt]
      exact .ok _ hlt
    · rw [if_pos hafter, if_neg hafter]
      exact .error _
  · cases negated with
    | true => exact .ok _ hpos
    | false => exact .ok _ hpos

theorem readOption_follows (registry : Registry) {k : Keyword} (hk : k.shape ≠ .fixed 0)
    (r : Reading) : Follows (readOption registry k r) (Reading.readOption registry k r) := by
  have hread : Reading.readOption registry k r = fun tokens =>
      (do let p ← Polarity.read k r.negated tokens; return (p, p.skip tokens)) >>= fun read =>
        Value.read k read.2 >>= fun value =>
          .ok (({ r with negated := false }.learn registry k read.1 value.1).push
            ⟨k.name, read.1.wrap value.1, some k⟩, value.2) := by
    funext tokens
    unfold Reading.readOption
    cases Polarity.read k r.negated tokens <;> rfl
  rw [hread]
  refine (readPolarity_follows k r.negated).bind fun p => ?_
  dsimp only
  exact (readValue_follows hk).bind fun v => .pure _

theorem readModules_follows (registry : Registry) (r : Reading) :
    Follows (readModules registry r) (Reading.readModules registry r) := by
  unfold readModules Reading.readModules
  split
  · exact .lift (.error _)
  · exact (takeList_follows matchKeyword.name).bind fun names => .pure _

/-- No keyword in scope takes a fixed number of no parameters. -/
def Safe (r : Reading) : Prop := ∀ name k, r.scope name = some k → k.shape ≠ .fixed 0

theorem step_agrees (registry : Registry) {r : Reading} (hr : Safe r) {tokens : List Token}
    {pos : Nat} (hpos : pos < tokens.length) :
    Agrees tokens ((step registry r).run tokens pos)
      (r.step registry tokens[pos] (tokens.drop (pos + 1))) := by
  rw [step, run_bind, run_next hpos]
  dsimp only
  unfold Reading.step
  cases hopen : r.opening registry tokens[pos] with
  | error fault => exact .error fault
  | ok o =>
    cases o with
    | negation => exact Follows.lift _ _ _ hpos
    | option k => exact readOption_follows registry (hr _ _ (Reading.opens_of_opening hopen)) r _ _ hpos
    | modules => exact readModules_follows registry r _ _ hpos
    | action kind =>
      exact (take_follows kind.name).bind (fun target => .lift (r.act registry kind target.text))
        _ _ hpos
    | target name => exact Follows.lift _ _ _ hpos
    | nothing => exact .ok _ hpos

/-- Enough turns read all tokens that are left. -/
theorem steps_run (registry : Registry) (hsafe : ∀ k ∈ registry.keywords, k.shape ≠ .fixed 0)
    {turns : Nat} {r : Reading} (hr : r.Sound registry) {tokens : List Token} {pos : Nat}
    (hpos : pos ≤ tokens.length) (hturns : tokens.length - pos < turns) :
    (steps registry turns r).run tokens pos
      = some ((r.run registry (tokens.drop pos)).map (·, tokens.length)) := by
  induction turns generalizing r pos with
  | zero => omega
  | succ turns ih =>
    rw [steps, run_exhausted]
    by_cases h : pos < tokens.length
    · rw [if_neg (by simpa using h), List.drop_eq_getElem_cons h, Reading.run_cons, run_bind]
      have hstep := step_agrees registry (fun name k hk => hsafe k (hr.keyword hk).2) h
      generalize (step registry r).run tokens pos = outcome at hstep
      generalize hresult : r.step registry tokens[pos] (tokens.drop (pos + 1)) = result at hstep
      cases hstep with
      | error fault => rfl
      | @ok r' last hlast =>
        have hsteps := Reading.steps_of_step hresult
        have hmoved : tokens.length - last < turns := by
          have := hsteps.suffix.length_le
          simp only [List.length_drop] at this
          omega
        exact ih (hr.steps hsteps) hlast hmoved
    · obtain rfl : pos = tokens.length := by omega
      rw [if_pos (by simp), List.drop_length, Reading.run]
      rfl

theorem parse_eq {registry : Registry} (hsafe : ∀ k ∈ registry.keywords, k.shape ≠ .fixed 0)
    (tokens : List Token) : parse registry tokens = some (LeafRule.ofTokens registry tokens) := by
  have hrun := steps_run registry hsafe Reading.sound_start (Nat.zero_le _)
    (Nat.lt_succ_self (LeafRule.dropTerminator tokens).length)
  rw [List.drop_zero] at hrun
  simp only [parse, hrun, Option.map_some, LeafRule.ofTokens]
  cases (Reading.start registry).run registry (LeafRule.dropTerminator tokens) <;> rfl

end Walk

end FermRules
