import Credentials.Json.Tree
import Credentials.Proofs.Json.Lexis

/-!
# The grammar of JSON

A tree is written as its tokens, with commas between items and members and a colon after each name.
The parser, which takes in one token at a time, accepts exactly the texts of trees, and gives the
tree that a text spells.
-/

namespace Credentials.Json

namespace Tree

mutual

/-- The tokens that a tree is written with. -/
def tokens : Syntax → List Token
  | .null => [.null]
  | .bool b => [.bool b]
  | .number n => [.number n]
  | .string s => [.string s]
  | .array items => .beginArray :: [.comma].intercalate (itemTokens items) ++ [.endArray]
  | .object members => .beginObject :: [.comma].intercalate (memberTokens members) ++ [.endObject]

/-- The tokens of each item. -/
def itemTokens : List Syntax → List (List Token)
  | [] => []
  | v :: items => tokens v :: itemTokens items

/-- The tokens of each member. -/
def memberTokens : List (StringLiteral × Syntax) → List (List Token)
  | [] => []
  | (name, v) :: members => (.string name :: .colon :: tokens v) :: memberTokens members

end

/-- The tokens of items are those of each. -/
theorem itemTokens_eq_map (items : List Syntax) : itemTokens items = items.map tokens := by
  induction items with
  | nil => rfl
  | cons v items ih => rw [itemTokens, ih, List.map_cons]

/-- The tokens of a member. -/
def tokensOfMember (m : StringLiteral × Syntax) : List Token := .string m.1 :: .colon :: tokens m.2

/-- The tokens of members are those of each. -/
theorem memberTokens_eq_map (members : List (StringLiteral × Syntax)) :
    memberTokens members = members.map tokensOfMember := by
  induction members with
  | nil => rfl
  | cons m members ih => rw [memberTokens, ih, List.map_cons, tokensOfMember]

end Tree

/-- Separated lists, where the last one is set apart. -/
theorem intercalate_append_singleton {α : Type} (sep : α) (xss : List (List α)) (xs : List α) :
    [sep].intercalate (xss ++ [xs]) = xss.flatMap (· ++ [sep]) ++ xs := by
  induction xss with
  | nil => simp [List.intercalate]
  | cons ys xss ih =>
    cases xss with
    | nil => simp [List.intercalate]
    | cons zs xss =>
      simp only [List.intercalate, List.cons_append, List.intersperse_cons_cons,
        List.flatten_cons, List.flatMap_cons, List.append_assoc] at ih ⊢
      rw [ih]

/-- Separated lists, where the first one is set apart. -/
theorem intercalate_cons_eq_flatMap {α : Type} (sep : α) (xs : List α) (xss : List (List α)) :
    [sep].intercalate (xs :: xss) = xs ++ xss.flatMap (sep :: ·) := by
  induction xss generalizing xs with
  | nil => simp [List.intercalate]
  | cons ys xss ih =>
    simp only [List.intercalate, List.intersperse_cons_cons, List.flatten_cons,
      List.flatMap_cons] at ih ⊢
    rw [ih, List.singleton_append, List.cons_append]

/-- The tokens of an array with at least one item, the last one set apart. -/
theorem tokens_array_append (items : List Syntax) (v : Syntax) :
    (Tree.array (items ++ [v])).tokens =
      .beginArray :: (items.flatMap (·.tokens ++ [.comma]) ++ (v.tokens ++ [.endArray])) := by
  rw [Tree.tokens, Tree.itemTokens_eq_map, List.map_append, List.map_singleton,
    intercalate_append_singleton, List.flatMap_map]
  simp

/-- The tokens of an object with at least one member, the last one set apart. -/
theorem tokens_object_append (members : List (StringLiteral × Syntax))
    (m : StringLiteral × Syntax) :
    (Tree.object (members ++ [m])).tokens =
      .beginObject :: (members.flatMap (Tree.tokensOfMember · ++ [.comma]) ++
        (Tree.tokensOfMember m ++ [.endObject])) := by
  rw [Tree.tokens, Tree.memberTokens_eq_map, List.map_append, List.map_singleton,
    intercalate_append_singleton, List.flatMap_map]
  simp

/-! ## Soundness -/

/-- The tokens that have been read when an array or object is open. -/
def Frame.consumed : Frame → List Token
  | .items done => .beginArray :: done.reverse.flatMap (·.tokens ++ [.comma])
  | .members done name =>
    .beginObject :: done.reverse.flatMap (Tree.tokensOfMember · ++ [.comma]) ++
      [.string name, .colon]

/-- The tokens that have been read when some arrays and objects are open. -/
def consumedBy : List Frame → List Token
  | [] => []
  | f :: stack => consumedBy stack ++ f.consumed

/-- The tokens that have led to a state. -/
def State.consumed : State → List Token
  | .value stack => consumedBy stack
  | .firstItem stack => consumedBy stack ++ [.beginArray]
  | .firstName stack => consumedBy stack ++ [.beginObject]
  | .nextName done stack =>
    consumedBy stack ++ .beginObject :: done.reverse.flatMap (Tree.tokensOfMember · ++ [.comma])
  | .colon done name stack =>
    consumedBy stack ++ .beginObject :: done.reverse.flatMap (Tree.tokensOfMember · ++ [.comma]) ++
      [.string name]
  | .after v stack => consumedBy stack ++ v.tokens

namespace State

/-- Beginning a value takes in one token. -/
theorem consumed_of_beginValue {stack : List Frame} {t : Token} {s : State}
    (h : beginValue stack t = some s) : s.consumed = consumedBy stack ++ [t] := by
  cases t <;> simp only [beginValue, Option.some.injEq, reduceCtorEq] at h
  all_goals
    subst h
    simp [consumed, Tree.tokens]

/-- A step takes in one token. -/
theorem consumed_of_step {s s' : State} {t : Token} (h : s.step t = some s') :
    s'.consumed = s.consumed ++ [t] := by
  fun_cases State.step s t with
  | case1 stack => exact consumed_of_beginValue h
  | case3 stack =>
    rw [step] at h
    · simpa [consumed, consumedBy, Frame.consumed] using consumed_of_beginValue h
    · assumption
  | case9 v done stack =>
    simp only [step, Option.some.injEq, List.reverse_cons] at h
    subst h
    simp [consumed, consumedBy, Frame.consumed, tokens_array_append]
  | case11 v done name stack =>
    simp only [step, Option.some.injEq, List.reverse_cons] at h
    subst h
    simp [consumed, consumedBy, Frame.consumed, tokens_object_append, Tree.tokensOfMember]
  | case12 =>
    rw [step] at h
    · cases h
    all_goals assumption
  | _ =>
    simp only [step, Option.some.injEq] at h
    subst h
    simp [consumed, consumedBy, Frame.consumed, Tree.tokens, Tree.itemTokens, Tree.memberTokens,
      Tree.tokensOfMember, List.intercalate]

/-- A run takes in its tokens. -/
theorem consumed_of_foldlM {s s' : State} {ts : List Token} (h : ts.foldlM step s = some s') :
    s'.consumed = s.consumed ++ ts := by
  induction ts generalizing s with
  | nil =>
    obtain rfl := Option.some.inj h
    simp
  | cons t ts ih =>
    rw [List.foldlM_cons] at h
    obtain ⟨next, hstep, hrun⟩ := Option.bind_eq_some_iff.mp h
    rw [ih hrun, consumed_of_step hstep, List.append_assoc, List.singleton_append]

end State

/-- A text that is parsed has the tokens of its tree. -/
theorem tokens_of_parseSyntax? {text : List Char} {tree : Syntax}
    (h : parseSyntax? text = some tree) : tokens text = some tree.tokens := by
  simp only [parseSyntax?, bind, Option.bind_eq_some_iff] at h
  obtain ⟨ts, hts, state, hrun, hresult⟩ := h
  have hconsumed := State.consumed_of_foldlM hrun
  unfold State.result? at hresult
  split at hresult
  · obtain rfl := Option.some.inj hresult
    rw [hts]
    simpa [State.consumed, consumedBy] using hconsumed.symm
  · simp at hresult

/-! ## Completeness -/

/-- A tree does not begin with the end of an array. -/
theorem Tree.exists_tokens_cons (v : Syntax) : ∃ t ts, v.tokens = t :: ts ∧ t ≠ .endArray := by
  cases v <;> exact ⟨_, _, rfl, by simp⟩

namespace State

/-- At the first item of an array that is not empty, a value is read. -/
theorem foldlM_firstItem {ts : List Token} {t : Token} (ht : t ≠ .endArray) (stack : List Frame) :
    (t :: ts).foldlM step (.firstItem stack) =
      (t :: ts).foldlM step (.value (.items [] :: stack)) := by
  have hstep : step (.firstItem stack) t = step (.value (.items [] :: stack)) t := by
    cases t with
    | endArray => exact absurd rfl ht
    | _ => rfl
  rw [List.foldlM_cons, List.foldlM_cons, hstep]

mutual

/-- The tokens of a tree lead to it. -/
theorem foldlM_tokens (v : Syntax) (stack : List Frame) :
    v.tokens.foldlM step (.value stack) = some (.after v stack) := by
  match v with
  | .null | .bool _ | .number _ | .string _ => rfl
  | .array [] => rfl
  | .array (v :: items) =>
    obtain ⟨t, ts, htokens, ht⟩ := v.exists_tokens_cons
    have hfirst : v.tokens.foldlM step (.firstItem stack) =
        some (.after v (.items [] :: stack)) := by
      rw [htokens, foldlM_firstItem ht, ← htokens]
      exact foldlM_tokens v _
    rw [Tree.tokens, Tree.itemTokens, intercalate_cons_eq_flatMap, Tree.itemTokens_eq_map,
      List.flatMap_map]
    simp only [List.cons_append, List.foldlM_cons, step, beginValue, Option.bind_eq_bind,
      Option.bind_some]
    rw [List.append_assoc, List.foldlM_append, hfirst, Option.bind_eq_bind, Option.bind_some]
    exact foldlM_items items v [] stack
  | .object [] => rfl
  | .object ((name, v) :: members) =>
    rw [Tree.tokens, Tree.memberTokens, intercalate_cons_eq_flatMap, Tree.memberTokens_eq_map,
      List.flatMap_map]
    simp only [List.cons_append, List.foldlM_cons, step, beginValue, Option.bind_eq_bind,
      Option.bind_some]
    rw [List.append_assoc, List.foldlM_append, foldlM_tokens v, Option.bind_eq_bind,
      Option.bind_some]
    exact foldlM_members members name v [] stack

/-- Further items lead to the whole array. -/
theorem foldlM_items (items : List Syntax) (v : Syntax) (done : List Syntax)
    (stack : List Frame) :
    (items.flatMap (fun w => Token.comma :: w.tokens) ++ [Token.endArray]).foldlM step
      (.after v (.items done :: stack)) =
        some (.after (.array ((v :: done).reverse ++ items)) stack) := by
  match items with
  | [] =>
    rw [List.append_nil]
    rfl
  | w :: items =>
    simp only [List.flatMap_cons, List.append_assoc, List.cons_append, List.foldlM_cons, step,
      Option.bind_eq_bind, Option.bind_some]
    rw [List.foldlM_append, foldlM_tokens w, Option.bind_eq_bind, Option.bind_some,
      foldlM_items items w (v :: done) stack, List.reverse_cons, List.append_assoc,
      List.singleton_append]

/-- Further members lead to the whole object. -/
theorem foldlM_members (members : List (StringLiteral × Syntax)) (name : StringLiteral)
    (v : Syntax) (done : List (StringLiteral × Syntax)) (stack : List Frame) :
    (members.flatMap (fun m => Token.comma :: Tree.tokensOfMember m) ++
      [Token.endObject]).foldlM step (.after v (.members done name :: stack)) =
        some (.after (.object (((name, v) :: done).reverse ++ members)) stack) := by
  match members with
  | [] =>
    rw [List.append_nil]
    rfl
  | (next, w) :: members =>
    rw [List.flatMap_cons, Tree.tokensOfMember]
    simp only [List.append_assoc, List.cons_append, List.foldlM_cons, step, Option.bind_eq_bind,
      Option.bind_some]
    rw [List.foldlM_append, foldlM_tokens w, Option.bind_eq_bind, Option.bind_some,
      foldlM_members members next w ((name, v) :: done) stack, List.reverse_cons,
      List.append_assoc, List.singleton_append]

end

end State

namespace State

/-- A number is a whole value. -/
theorem exists_after_of_step {s s' : State} {t : Token} (ht : t.isNumber = true)
    (h : s.step t = some s') : ∃ v stack, s' = .after v stack := by
  cases t <;> simp only [Token.isNumber, Bool.false_eq_true] at ht
  cases s <;> simp only [step, beginValue, Option.some.injEq, reduceCtorEq] at h
  all_goals exact ⟨_, _, h.symm⟩

/-- After a whole value comes what may come after a number. -/
theorem closesNumber_of_step {v : Syntax} {stack : List Frame} {t : Token} {s : State}
    (h : step (.after v stack) t = some s) : t.closesNumber = true := by
  cases t with
  | comma => rfl
  | endArray => rfl
  | endObject => rfl
  | _ =>
    cases stack with
    | nil => cases h
    | cons f stack => cases f <;> cases h

/-- Tokens that are taken in keep their numbers apart. -/
theorem separated_of_foldlM {s s' : State} {ts : List Token} (h : ts.foldlM step s = some s') :
    Separated ts := by
  induction ts generalizing s with
  | nil => exact .nil
  | cons t ts ih =>
    rw [List.foldlM_cons] at h
    obtain ⟨next, hstep, hrun⟩ := Option.bind_eq_some_iff.mp h
    cases ts with
    | nil => exact .singleton t
    | cons u ts =>
      refine List.isChain_cons_cons.mpr ⟨fun ht => ?_, ih hrun⟩
      obtain ⟨v, stack, rfl⟩ := exists_after_of_step ht hstep
      rw [List.foldlM_cons] at hrun
      obtain ⟨_, hstep, _⟩ := Option.bind_eq_some_iff.mp hrun
      exact closesNumber_of_step hstep

end State

/-- A tree may be written as a text. -/
def Spells (text : List Char) (tree : Syntax) : Prop := Laid tree.tokens text

/-- The parser accepts exactly the texts of trees. -/
theorem parseSyntax?_eq_some_iff {text : List Char} {tree : Syntax} :
    parseSyntax? text = some tree ↔ Spells text tree := by
  constructor
  · intro h
    exact tokens_sound (tokens_of_parseSyntax? h)
  · intro h
    have hrun := State.foldlM_tokens tree []
    have htokens := tokens_complete h (State.separated_of_foldlM hrun)
    rw [parseSyntax?, htokens, Option.bind_eq_bind, Option.bind_some, hrun]
    rfl

end Credentials.Json
