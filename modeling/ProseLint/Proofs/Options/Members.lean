import ProseLint.Proofs.Options.Skip

/-!
# Runs along the members of an object

What the reader makes of the text of an object is said by the members of the object alone. Each
member takes the excludes found so far a step further (`take?`), and the steps along the members are
the run along the text (`toOption_ofText`).
-/

namespace ProseLint.Options

open ProseLint.Json
open ProseLint.Text

/-! ## The list of excludes -/

/-- The text that a string stands for. -/
def textOf? : Value → Option String
  | .string units => (Utf16.decode? units).map String.ofList
  | _ => none

/-- The excludes that the value of a member gives. -/
def excludesOf? : Value → Option (List String)
  | .array vs => vs.mapM textOf?
  | _ => none

theorem textOf?_eq_some_iff {v : Value} {t : String} : textOf? v = some t ↔ v = .text t := by
  cases v with
  | string units =>
    rw [textOf?, Option.map_eq_some_iff, Value.text, Value.string.injEq]
    constructor
    · rintro ⟨cs, hcs, rfl⟩
      rw [String.toList_ofList]
      exact Utf16.decode?_eq_some_iff.1 hcs
    · intro h
      exact ⟨t.toList, Utf16.decode?_eq_some_iff.2 h, String.ofList_toList⟩
  | _ => simp [textOf?, Value.text]

theorem mapM_textOf?_eq_some_iff {vs : List Value} {ts : List String} :
    vs.mapM textOf? = some ts ↔ vs = ts.map Value.text := by
  induction vs generalizing ts with
  | nil => cases ts <;> simp
  | cons v vs ih =>
    simp only [List.mapM_cons, Option.bind_eq_bind, Option.bind_eq_some_iff, textOf?_eq_some_iff,
      ih, Option.pure_def, Option.some.injEq]
    constructor
    · rintro ⟨t, rfl, us, rfl, rfl⟩
      rfl
    · intro h
      obtain ⟨t, us, rfl, rfl, rfl⟩ := List.map_eq_cons_iff.1 h.symm
      exact ⟨t, rfl, us, rfl, rfl⟩

theorem excludesOf?_eq_some_iff {v : Value} {ts : List String} :
    excludesOf? v = some ts ↔ v = .array (ts.map Value.text) := by
  cases v with
  | array vs => rw [excludesOf?, mapM_textOf?_eq_some_iff, Value.array.injEq]
  | _ => simp [excludesOf?]

/-- A value that does not begin as the right ones do is a fault. -/
theorem reads_of_not_beginsWith (expected : Expected) {first : Char} (outcome : Outcome) {v : Value}
    (hv : v.beginsWith first = false) {cs : List Char} (h : Spells (.value v) cs) :
    Reads (fun c => if c == first then outcome else startValue (.wrong expected) c) none cs := by
  intro rest hrest
  have hwrong := reads_wrong expected h rest hrest
  obtain ⟨c, ds, rfl, hc⟩ := h.value_head
  have hne : c ≠ first := by
    rintro rfl
    rw [hc] at hv
    cases hv
  rw [← hwrong, List.cons_append, begin?, begin?, if_neg (by simpa using hne)]

/-- One of the excludes. -/
theorem reads_entry (home : Home) (entries : List String) {v : Value} {cs : List Char}
    (h : Spells (.value v) cs) :
    Reads (startEntry home entries) ((textOf? v).map fun t => .entryEnd home (t :: entries))
      cs := by
  cases hv : v.beginsWith '\x22' with
  | true =>
    obtain ⟨units, rfl⟩ := Value.eq_string_of_beginsWith hv
    cases h with | string h =>
    obtain ⟨inner, hinner, rfl⟩ := h
    intro rest _
    have hpurpose : (Purpose.entry home entries).isSkipped = false := rfl
    rw [List.cons_append, List.append_assoc]
    refine (after?_string hpurpose hinner rest).trans ?_
    rw [textOf?]
    cases Utf16.decode? units <;> rfl
  | false =>
    have hnone : textOf? v = none := by
      cases v with
      | string units => cases hv
      | _ => rfl
    rw [hnone]
    exact reads_of_not_beginsWith .entry _ hv h

theorem opens_entryFirst (home : Home) : Opens (.entryFirst home) (startEntry home []) :=
  opens_of_stepOutside rfl fun c hc => by simp [stepOutside, hc]

theorem opens_entryNext (home : Home) (entries : List String) :
    Opens (.entryNext home entries) (startEntry home entries) :=
  opens_of_stepOutside rfl fun c hc => by simp [stepOutside, hc]

theorem opens_excludes (home : Home) : Opens (.excludes home) (startExcludes home) :=
  opens_of_stepOutside rfl fun _ _ => rfl

/-- The excludes from one of them on, up to the bracket that closes their list. -/
theorem after?_entries {home : Home} {entries : List String} {s : State}
    (hs : Opens s (startEntry home entries)) {vs : List Value} {cs : List Char}
    (h : Spells (.elements vs) cs) (rest : List Char) :
    after? s (cs ++ ']' :: rest) = (vs.mapM textOf?).bind fun es =>
      after? (afterExcludes home (es.reverse ++ entries)) rest := by
  induction vs generalizing cs s entries with
  | nil => cases h
  | cons v vs ih =>
    -- The first one is read the same way whether or not others follow it.
    have hfirst {cs rest : List Char} (h : Spells (.element v) cs) (hrest : Ends rest) :
        after? s (cs ++ rest) =
          (textOf? v).bind fun t => after? (.entryEnd home (t :: entries)) rest := by
      cases h with | element hbefore hvalue hafter =>
      rw [hs.after?_element hbefore hvalue hafter ?_ (reads_entry home entries hvalue) hrest,
        Option.bind_map]
      · rfl
      · intro t ht
        obtain ⟨u, -, rfl⟩ := Option.map_eq_some_iff.1 ht
        rfl
    rw [List.mapM_cons]
    cases h with
    | lastElement h =>
      rw [hfirst h (ends_of_mem rest (by decide))]
      cases textOf? v <;> rfl
    | nextElement h hvs =>
      rw [List.append_assoc, List.cons_append, hfirst h (ends_of_mem _ (by decide))]
      cases textOf? v with
      | none => rfl
      | some t =>
        refine (ih (opens_entryNext home (t :: entries)) hvs).trans ?_
        cases vs.mapM textOf? with
        | none => rfl
        | some es => simp

/-- The value of the member `excludes`. -/
theorem reads_excludes (home : Home) {v : Value} {cs : List Char} (h : Spells (.value v) cs) :
    Reads (startExcludes home) ((excludesOf? v).map fun es => afterExcludes home es.reverse)
      cs := by
  cases hv : v.beginsWith '[' with
  | true =>
    obtain ⟨vs, rfl⟩ := Value.eq_array_of_beginsWith hv
    intro rest _
    cases h with
    | emptyArray hblank =>
      rw [List.cons_append, List.append_assoc]
      exact after?_blank (s := .entryFirst home) rfl hblank (']' :: rest)
    | array h =>
      rw [List.cons_append, List.append_assoc]
      refine (after?_entries (opens_entryFirst home) h rest).trans ?_
      rw [excludesOf?, Option.bind_map]
      simp only [List.append_nil]
      rfl
  | false =>
    have hnone : excludesOf? v = none := by
      cases v with
      | array vs => cases hv
      | _ => rfl
    rw [hnone]
    exact reads_of_not_beginsWith .excludes _ hv h

/-! ## Members -/

/-- The excludes found so far, one member with this key further. -/
def takeNamed? (progress : Progress) (key : String) (v : Value) : Option Progress :=
  if key = "excludes" then
    match progress with
    | none => (excludesOf? v).map some
    | some _ => none
  else some progress

/-- The excludes found so far, one member further. -/
def take? (progress : Progress) (m : Member) : Option Progress :=
  (textOf? (.string m.1)).bind fun key => takeNamed? progress key m.2

/-- The value of a member behind its colon. -/
theorem after?_memberValue {s : State} {start : Char → Outcome} (hs : Opens s start) {v : Value}
    {target? : Option Progress}
    (hreads : ∀ cs, Spells (.value v) cs → Reads start (target?.map State.memberEnd) cs)
    {cs rest : List Char} (h : Spells (.element v) cs) (hrest : Ends rest) :
    after? s (cs ++ rest) = target?.bind fun p => after? (.memberEnd p) rest := by
  cases h with | element hbefore hvalue hafter =>
  rw [hs.after?_element hbefore hvalue hafter ?_ (hreads _ hvalue) hrest, Option.bind_map]
  · rfl
  · intro t ht
    obtain ⟨p, -, rfl⟩ := Option.map_eq_some_iff.1 ht
    rfl

/-- A member behind its key. -/
theorem after?_afterKey (progress : Progress) (key : String) {v : Value}
    {blank cs rest : List Char} (hblank : IsBlank blank) (h : Spells (.element v) cs)
    (hrest : Ends rest) :
    after? (afterKey progress key) (blank ++ ':' :: (cs ++ rest)) =
      (takeNamed? progress key v).bind fun p => after? (.memberEnd p) rest := by
  by_cases hkey : key = "excludes"
  · subst key
    cases progress with
    | none =>
      have hstate : afterKey none "excludes" = .excludesColon := rfl
      rw [hstate, after?_blank rfl hblank]
      refine after?_memberValue (opens_excludes .member) (fun cs hcs => ?_) h hrest
      convert reads_excludes .member hcs using 1
      simp [takeNamed?, afterExcludes, Function.comp_def]
    | some es =>
      have hstate : afterKey (some es) "excludes" = .repeated := rfl
      rw [hstate, after?_blank rfl hblank]
      rfl
  · have hstate : afterKey progress key = .unknownColon progress := if_neg (by simpa using hkey)
    have htake : takeNamed? progress key v = some progress := if_neg hkey
    rw [hstate, htake, after?_blank rfl hblank]
    exact skips progress h [] _ rest (opens_skipValue progress []) hrest

theorem after?_member {progress : Progress} {s : State} (hs : AwaitsKey s (.key progress))
    {m : Member} {cs rest : List Char} (h : Spells (.member m) cs) (hrest : Ends rest) :
    after? s (cs ++ rest) = (take? progress m).bind fun p => after? (.memberEnd p) rest := by
  cases h with | @member units v before ks blank cs hbefore hkey hblank hvalue =>
  obtain ⟨inner, hinner, rfl⟩ := hkey
  have hpurpose : (Purpose.key progress).isSkipped = false := rfl
  rw [List.append_assoc, List.append_assoc, hs.after?_key hbefore, after?_string hpurpose hinner,
    take?, textOf?, List.append_assoc, List.cons_append]
  cases Utf16.decode? units with
  | none => rfl
  | some key => exact after?_afterKey progress (String.ofList key) hblank hvalue hrest

/-- The members from one of them on, up to the brace that closes the object. -/
theorem after?_members {progress : Progress} {s : State} (hs : AwaitsKey s (.key progress))
    {ms : List Member} {cs : List Char} (h : Spells (.members ms) cs) (rest : List Char) :
    after? s (cs ++ '\x7d' :: rest) =
      (ms.foldlM take? progress).bind fun p => after? (.done (p.getD [])) rest := by
  induction ms generalizing cs s progress with
  | nil => cases h
  | cons m ms ih =>
    rw [List.foldlM_cons]
    cases h with
    | lastMember h =>
      rw [after?_member hs h (ends_of_mem rest (by decide))]
      cases take? progress m <;> rfl
    | nextMember h hms =>
      rw [List.append_assoc, List.cons_append, after?_member hs h (ends_of_mem _ (by decide))]
      cases take? progress m with
      | none => rfl
      | some p => exact ih (s := .memberNext p) ⟨rfl, rfl⟩ hms

theorem after?_object {members : List Member} {cs : List Char}
    (h : Spells (.element (.object members)) cs) :
    after? .start cs = (members.foldlM take? none).map fun p => .done (p.getD []) := by
  cases h with | @element _ before cs blank hbefore hvalue hblank =>
  rw [after?_blank rfl hbefore]
  cases hvalue with
  | @emptyObject inside hinside =>
    rw [List.cons_append, List.append_assoc]
    refine (after?_blank (s := .memberFirst) rfl hinside ('\x7d' :: blank)).trans ?_
    exact after?_done [] hblank
  | object h =>
    rw [List.cons_append, List.append_assoc]
    refine (after?_members (s := .memberFirst) ⟨rfl, rfl⟩ h blank).trans ?_
    rw [Option.map_eq_bind]
    simp only [after?_done _ hblank, Function.comp_def]

/-- The options that the text of an object gives are found member by member. -/
theorem toOption_ofText {members : List Member} {text : String}
    (h : Spells (.element (.object members)) text.toList) :
    (ofText text).toOption = (members.foldlM take? none).map fun p => ⟨p.getD []⟩ := by
  rw [toOption_ofText_eq, after?_object h]
  cases members.foldlM take? none <;> rfl

end ProseLint.Options
