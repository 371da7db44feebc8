import ChipEight.Proofs.Input.Delivery

/-!
# Proofs/Input/Survival — which characters the reader outlives

A terminal numbers its characters and its function keys from zero up to the last code point.  The reader
takes each of them in lower case, for which there is no code if the form is two characters.  So it
fails on `İ`, and on the function key of that number, and no key typed afterwards gets through.  Every
other number it outlives, in any state of the queue.

* `receive_eq_error_iff` — what the reader fails on;
* `stops_readAll` — how it ends on a list of characters;
* `Step.fate` — how far it has come between polls, step by step;
* `reader_outlives` — a reader ends only because it **was told to stop, was asked to quit, or read
  the one character it fails on**, and reads on after any other.
-/

namespace ChipEight

open TerminalInput (asksToQuit capacity)

/-- **An ordinary character**: a number that a terminal gives, neither ESC nor CTRL-C nor the capital
with two characters for its lower-case form. -/
structure IsOrdinary (code : Int) : Prop where
  lt : code < 0x110000
  stays : asksToQuit code = false
  ne_dotted : code ≠ Text.dottedCapitalI

/-- The three kinds of number that a terminal gives. -/
theorem isOrdinary_or {code : Int} (h : code < 0x110000) :
    IsOrdinary code ∨ asksToQuit code = true ∨ code = Text.dottedCapitalI := by
  by_cases hquit : asksToQuit code = true
  · exact .inr (.inl hquit)
  by_cases hdotted : code = Text.dottedCapitalI
  · exact .inr (.inr hdotted)
  · exact .inl ⟨h, Bool.eq_false_iff.2 hquit, hdotted⟩

namespace TerminalInput

variable (t : TerminalInput) {code : Int} {failure : Failure}

/-! ## One character -/

/-- **What the reader fails on**: the characters without a lower-case code. -/
theorem receive_eq_error_iff :
    t.receive code = .error failure ↔ 0 ≤ code ∧ Uncased code failure := by
  rw [← lowerCode_eq_error_iff, receive]
  by_cases hneg : code < 0
  · simp [hneg, Int.not_le.2 hneg, pure, Except.pure]
  have hcode : 0 ≤ code := Int.not_lt.1 hneg
  rcases lowerCode code with failure' | small
  · simp [hneg, hcode, bind, Except.bind]
  · simp only [hneg, if_false, bind, Except.bind, reduceCtorEq, and_false, iff_false]
    split
    · intro h
      cases h
    · cases t.keymap.key? small <;> intro h <;> cases h

/-- The terminal once its reader has dealt with an ordinary character. -/
def typed (code : Int) : TerminalInput :=
  match t.keymap.typed? code with
  | some k => t.enqueue k
  | none => t

/-- **The reader reads on after an ordinary character.** -/
theorem receive_of_ordinary (h : IsOrdinary code) : t.receive code = .ok (t.typed code, true) := by
  rw [typed]
  cases htyped : t.keymap.typed? code with
  | some k => exact t.receive_of_typed?_eq_some htyped
  | none =>
    obtain hreceive | ⟨failure, hreceive⟩ := t.receive_of_typed?_eq_none h.stays htyped
    · exact hreceive
    obtain ⟨hcode, huncased⟩ := t.receive_eq_error_iff.1 hreceive
    have hlt := h.lt
    cases huncased with
    | tooWide hwide =>
      rw [characterLimit] at hwide
      omega
    | noCharacter _ hpoint => omega
    | dotted => exact absurd rfl h.ne_dotted

/-- The reader fails on the capital with two characters for its lower-case form. -/
theorem receive_dotted : t.receive Text.dottedCapitalI = .error (.severalCharacters 2) := rfl

/-! ## A list of characters -/

@[simp] theorem stopping_typed (code : Int) : (t.typed code).stopping = t.stopping := by
  unfold typed enqueue
  split
  · split <;> rfl
  · rfl

/-- The terminal once its reader has dealt with ordinary characters. -/
def typedAll (codes : List Int) : TerminalInput :=
  codes.foldl typed t

/-- **How the reader ends on a list of characters**, and what it leaves behind. -/
inductive Stops (codes : List Int) : Reading → Prop where
  /-- It finds itself told to stop. -/
  | told (h : t.stopping = true) : Stops codes ⟨t, 0, none⟩
  /-- It has read all characters. -/
  | exhausted (h : t.stopping = false) (hcodes : ∀ code ∈ codes, IsOrdinary code) :
    Stops codes ⟨t.typedAll codes, codes.length, none⟩
  /-- It has read one that asks to quit. -/
  | asked {before after : List Int} {code : Int} (h : t.stopping = false)
    (hcodes : codes = before ++ code :: after) (hbefore : ∀ code ∈ before, IsOrdinary code)
    (hquit : asksToQuit code = true) :
    Stops codes ⟨{ t.typedAll before with queue := (t.typedAll before).queue ++ [none] },
      before.length + 1, none⟩
  /-- It has read the one that it fails on. -/
  | failed {before after : List Int} (h : t.stopping = false)
    (hcodes : codes = before ++ (Text.dottedCapitalI : Int) :: after)
    (hbefore : ∀ code ∈ before, IsOrdinary code) :
    Stops codes ⟨t.typedAll before, before.length + 1, some (.severalCharacters 2)⟩

/-- A reader ends as if it had begun after an ordinary character. -/
theorem Stops.cons {t : TerminalInput} {rest : List Int} {r : Reading} (hcode : IsOrdinary code)
    (h : t.stopping = false) (hrest : (t.typed code).Stops rest r) :
    t.Stops (code :: rest) { r with count := r.count + 1 } := by
  have hall {codes : List Int} (hcodes : ∀ code ∈ codes, IsOrdinary code) :
      ∀ other ∈ code :: codes, IsOrdinary other := List.forall_mem_cons.2 ⟨hcode, hcodes⟩
  cases hrest with
  | told htold => simp [h] at htold
  | exhausted _ hcodes => exact .exhausted h (hall hcodes)
  | asked _ hcodes hbefore hquit =>
    exact .asked h (by rw [hcodes, List.cons_append]) (hall hbefore) hquit
  | failed _ hcodes hbefore =>
    exact .failed h (by rw [hcodes, List.cons_append]) (hall hbefore)

theorem stops_readOn (count : Nat) {codes : List Int} (hcodes : ∀ code ∈ codes, code < 0x110000) :
    ∃ r, t.Stops codes r ∧ t.readOn count codes = { r with count := count + r.count } := by
  induction codes generalizing t count with
  | nil =>
    cases h : t.stopping with
    | true => exact ⟨_, .told h, rfl⟩
    | false => exact ⟨_, .exhausted h (List.forall_mem_nil _), rfl⟩
  | cons code rest ih =>
    obtain ⟨hcode, hrest⟩ := List.forall_mem_cons.1 hcodes
    rw [readOn]
    cases h : t.stopping with
    | true => exact ⟨_, .told h, rfl⟩
    | false =>
      have hsplit : code :: rest = [] ++ code :: rest := rfl
      obtain hordinary | hquit | rfl := isOrdinary_or hcode
      · obtain ⟨r, hstops, hread⟩ := ih (t.typed code) (count + 1) hrest
        refine ⟨_, .cons hordinary h hstops, ?_⟩
        rw [if_neg Bool.false_ne_true, t.receive_of_ordinary hordinary]
        simp only [hread, Nat.add_assoc, Nat.add_comm 1]
      · refine ⟨_, .asked h hsplit (List.forall_mem_nil _) hquit, ?_⟩
        rw [if_neg Bool.false_ne_true, t.receive_of_asksToQuit hquit]
        rfl
      · refine ⟨_, .failed h hsplit (List.forall_mem_nil _), ?_⟩
        rw [if_neg Bool.false_ne_true, receive_dotted]
        rfl

/-- **A reader on a list of characters** ends in one of these four ways. -/
theorem stops_readAll {codes : List Int} (hcodes : ∀ code ∈ codes, code < 0x110000) :
    t.Stops codes (t.readAll codes) := by
  obtain ⟨r, hstops, hread⟩ := t.stops_readOn 0 hcodes
  rw [readAll, hread, Nat.zero_add]
  exact hstops

end TerminalInput

namespace Exchange

variable {e next : Exchange} {keymap : Keymap} {code : Int} {atRead : Nat}

/-! ## Between polls -/

/-- **How far a reader has come**, and why it has ended if it has. -/
inductive Fate (e : Exchange) : Prop where
  /-- It has not ended. -/
  | going (hstage : e.stage ≠ .ended) (hreceipts : ∀ r ∈ e.receipts, IsOrdinary r.code)
  /-- It has found itself told to stop. -/
  | told (hended : e.stage = .ended) (hstopping : e.input.stopping = true)
    (hreceipts : ∀ r ∈ e.receipts, IsOrdinary r.code)
  /-- It has been asked to quit. -/
  | asked {before : List Receipt} {r : Receipt} (hended : e.stage = .ended)
    (hreceipts : e.receipts = before ++ [r]) (hbefore : ∀ r ∈ before, IsOrdinary r.code)
    (hquit : asksToQuit r.code = true)
  /-- It has read the one character that it fails on. -/
  | failed {before : List Receipt} {r : Receipt} (hended : e.stage = .ended)
    (hreceipts : e.receipts = before ++ [r]) (hbefore : ∀ r ∈ before, IsOrdinary r.code)
    (hdotted : r.code = Text.dottedCapitalI)

namespace Fate

theorem of_going (h : e.Fate) (hstage : e.stage ≠ .ended) :
    ∀ r ∈ e.receipts, IsOrdinary r.code := by
  cases h with
  | going _ hreceipts => exact hreceipts
  | told hended | asked hended | failed hended => exact absurd hended hstage

/-- What polls do, and that the reader is told to stop, does not change how far it has come. -/
theorem congr (h : e.Fate) (hstage : next.stage = e.stage) (hreceipts : next.receipts = e.receipts)
    (hstopping : e.input.stopping = true → next.input.stopping = true) : next.Fate := by
  cases h with
  | going hgoing hall => exact .going (hstage ▸ hgoing) (hreceipts ▸ hall)
  | told hended htold hall =>
    exact .told (hstage.trans hended) (hstopping htold) (hreceipts ▸ hall)
  | asked hended hlast hbefore hquit =>
    exact .asked (hstage.trans hended) (hreceipts.trans hlast) hbefore hquit
  | failed hended hlast hbefore hdotted =>
    exact .failed (hstage.trans hended) (hreceipts.trans hlast) hbefore hdotted

end Fate

/-- A reader that has dealt with an ordinary character looks again. -/
theorem handle_of_ordinary (h : IsOrdinary code) :
    e.handle code atRead = { e with
      input := e.input.typed code
      stage := .looking
      receipts := e.receipts ++ [⟨code, atRead, e.input.queue.length⟩] } := by
  rw [handle, e.input.receive_of_ordinary h]
  rfl

/-- Only ESC, CTRL-C and the character that the reader fails on end it. -/
theorem Fate.handle (h : e.Fate) (hstage : e.stage = .holding code atRead)
    (hcode : code < 0x110000) : (e.handle code atRead).Fate := by
  have hall := h.of_going (by rw [hstage]; exact nofun)
  obtain hordinary | hquit | rfl := isOrdinary_or hcode
  · rw [handle_of_ordinary hordinary]
    exact .going nofun (List.forall_mem_append.2 ⟨hall, List.forall_mem_singleton.2 hordinary⟩)
  · rw [Exchange.handle, e.input.receive_of_asksToQuit hquit]
    exact .asked rfl rfl hall hquit
  · exact .failed rfl rfl hall rfl

/-- **A step of either side** ends the reader only for a reason. -/
theorem Step.fate (hstep : Step e next) (hcodes : ∀ code ∈ next.codes, code < 0x110000)
    (h : e.Fate) : next.Fate := by
  cases hstep with
  | look hstage =>
    have hall := h.of_going (by rw [hstage]; exact nofun)
    cases hstopping : e.input.stopping with
    | true => exact .told rfl hstopping hall
    | false => exact .going nofun hall
  | read hstage => exact .going nofun (h.of_going (by rw [hstage]; exact nofun))
  | @handle code atRead hstage =>
    have hreceipts := (e.handle_rest code atRead).2.2.2
    refine h.handle hstage (hcodes code ?_)
    simp [codes, hreceipts]
  | begin => exact h.congr rfl rfl id
  | take =>
    obtain ⟨hstage, hreceipts, hstopping⟩ := e.take_rest _
    exact h.congr hstage hreceipts hstopping.trans
  | stop => exact h.congr rfl rfl fun _ => rfl

/-- **Runs of both sides** end the reader only for a reason. -/
theorem Leads.fate (h : Leads (start keymap) e) (hcodes : ∀ code ∈ e.codes, code < 0x110000) :
    e.Fate := by
  induction h with
  | refl => exact .going nofun (List.forall_mem_nil _)
  | tail _ hstep ih =>
    refine hstep.fate hcodes (ih fun code hmem => hcodes code ?_)
    obtain hsame | ⟨-, -, read, hread⟩ := hstep.codes_eq_or
    · exact hsame ▸ hmem
    · exact hread ▸ List.mem_append_left _ hmem

/-- A reader that looks for more deals with an ordinary character, and looks again. -/
theorem leads_of_ordinary (hordinary : IsOrdinary code) (hstage : e.stage = .looking)
    (hstopping : e.input.stopping = false) :
    ∃ later, Leads e later ∧ later.stage = .looking ∧ later.codes = e.codes ++ [code] ∧
      later.input.queue.reduceOption = e.input.queue.reduceOption ++
        (if e.input.queue.length < capacity then e.input.keymap.typed? code else none).toList := by
  have hleads : Leads e (e.handle code e.input.queue.length) :=
    leads_handle hstage (by rw [hstopping]; exact Bool.false_ne_true)
      fun hquit => absurd hquit (by rw [hordinary.stays]; exact Bool.false_ne_true)
  refine ⟨_, hleads, by rw [handle_of_ordinary hordinary], ?_, keys_handle e code _⟩
  simp [handle_of_ordinary hordinary, codes, hstage, Stage.inHand]

/-- **What a reader outlives.**  Whatever the order in which a reader and its polls take their steps,
the reader ends only if it finds itself told to stop, if it has read a character that asks to quit, or
if it has read the one character it fails on; all others before that were ordinary.  A reader that
looks for more reads on after any ordinary character, whose key is then the last in the queue unless
the queue was full.  On a list of characters it ends likewise, or when it has read them all. -/
theorem reader_outlives (h : Leads (start keymap) e) (hcodes : ∀ code ∈ e.codes, code < 0x110000) :
    e.Fate ∧
    (∀ code, IsOrdinary code → e.stage = .looking → e.input.stopping = false →
      ∃ later, Leads e later ∧ later.stage = .looking ∧ later.codes = e.codes ++ [code] ∧
        later.input.queue.reduceOption = e.input.queue.reduceOption ++
          (if e.input.queue.length < capacity then keymap.typed? code else none).toList) ∧
    ∀ (t : TerminalInput) (codes : List Int), (∀ code ∈ codes, code < 0x110000) →
      t.Stops codes (t.readAll codes) := by
  refine ⟨h.fate hcodes, fun code hordinary hstage hstopping => ?_,
    fun t codes hcodes => t.stops_readAll hcodes⟩
  rw [← h.delivers.1.keymap_eq]
  exact leads_of_ordinary hordinary hstage hstopping

/-- The keymap of the usual text. -/
def usualKeymap : Keymap :=
  ⟨[120, 49, 50, 51, 113, 119, 101, 97, 115, 100, 122, 99, 52, 114, 102, 118].zip
    (List.finRange 16)⟩

/-- A reader that has read `X` and then the function key numbered like `İ` has ended, though it was
neither told to stop nor asked to quit. -/
theorem reader_outlives_function_key :
    ∃ e, Leads (start usualKeymap) e ∧ e.codes = [88, 0x130] ∧ e.stage = .ended ∧
      e.input.stopping = false ∧ (∀ r ∈ e.receipts, asksToQuit r.code = false) ∧
      ∃ before r, e.receipts = before ++ [r] ∧ r.code = (Text.dottedCapitalI : Int) := by
  let e := ((start usualKeymap).handle 88 0).handle 0x130 1
  have hleads : Leads (start usualKeymap) e :=
    (leads_handle rfl Bool.false_ne_true fun h => absurd h (by decide)).trans
      (leads_handle rfl Bool.false_ne_true fun h => absurd h (by decide))
  have hstays : ∀ r ∈ e.receipts, asksToQuit r.code = false := by decide +kernel
  refine ⟨e, hleads, rfl, rfl, rfl, hstays, ?_⟩
  obtain ⟨hfate, -, -⟩ := reader_outlives hleads (by decide +kernel)
  cases hfate with
  | going hstage => exact absurd rfl hstage
  | told _ hstopping => nomatch hstopping
  | @asked before r _ hreceipts _ hquit =>
    have hstay := hstays r (by simp [hreceipts])
    nomatch hstay.symm.trans hquit
  | failed _ hreceipts _ hdotted => exact ⟨_, _, hreceipts, hdotted⟩

end Exchange

/-- **The reader does not outlive every character**: it fails on the function key numbered like `İ`,
and the `x` typed next stays unread, which would have been key 0. -/
theorem TerminalInput.readAll_function_key :
    let t := start Exchange.usualKeymap
    t.readAll [0x130, 120] = ⟨t, 1, some (.severalCharacters 2)⟩ ∧
      (t.readAll [120]).input.queue = [some 0] :=
  ⟨rfl, by decide +kernel⟩

end ChipEight
