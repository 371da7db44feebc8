import ChipEight.Proofs.Input.Reader

/-!
# Proofs/Input/Delivery — what gets through the queue of a terminal

Every step of the reader and of a poll keeps two laws, whatever the order of the steps.

**Keys stay in order** (`Step.delivers`).  What polls have taken out, followed by what is queued, are
the keys of the characters read.  Missing are only those that met a full queue.

**The wish to quit comes last** (`Step.quitting`).  The character that asks for it is the last that is
read, its mark the last that is queued, and a poll that meets the mark leaves nothing behind.

A third law is about the other end: a reader that has been told to stop reads nothing more
(`Leads.codes_eq`), but for the character it may be waiting for (`Leads.codes_eq_or`).  The laws hold
of the program's reader and polls because these are runs of the exchange (`readsOn`, `leads_polled`).
Together they are `delivery`.
-/

namespace ChipEight.Exchange

open TerminalInput (asksToQuit capacity holdTime)

variable {e next later : Exchange} {keymap : Keymap} {code : Int} {atRead : Nat}

/-! ## Keys in order -/

/-- **The law of delivery.**  The keys taken out, and then those still queued, are those of the
characters read, but for the ones that met a full queue. -/
structure Delivers (keymap : Keymap) (e : Exchange) : Prop where
  keymap_eq : e.input.keymap = keymap
  keys_eq : e.taken ++ e.input.queue.reduceOption = e.receipts.filterMap (·.key? keymap)
  queue_le : e.input.queue.length ≤ capacity
  atPut_le : ∀ r ∈ e.receipts, r.atPut ≤ r.atRead
  length_le : ∀ code atRead, e.stage = .holding code atRead → e.input.queue.length ≤ atRead

namespace Delivers

/-- The law holds at the beginning. -/
theorem start (keymap : Keymap) : (Exchange.start keymap).Delivers keymap :=
  ⟨rfl, rfl, Nat.zero_le _, List.forall_mem_nil _, nofun⟩

/-- The reader keeps the law. -/
theorem handle (h : e.Delivers keymap) (hstage : e.stage = .holding code atRead)
    (hroom : asksToQuit code = true → e.input.queue.length < capacity) :
    (e.handle code atRead).Delivers keymap := by
  obtain ⟨hkeymap, hinHand, htaken, hreceipts⟩ := e.handle_rest code atRead
  refine ⟨hkeymap.trans h.keymap_eq, ?_, length_handle_le hroom h.queue_le, ?_, ?_⟩
  · rw [htaken, keys_handle, ← List.append_assoc, h.keys_eq, hreceipts, List.filterMap_append,
      h.keymap_eq]
    cases hkey : Receipt.key? keymap ⟨code, atRead, e.input.queue.length⟩ <;> simp [hkey]
  · rw [hreceipts, List.forall_mem_append, List.forall_mem_singleton]
    exact ⟨h.atPut_le, h.length_le code atRead hstage⟩
  · intro code' atRead' hnext
    rw [hnext] at hinHand
    nomatch hinHand

/-- Polls keep the law: what they take is the first of what is queued. -/
theorem take (h : e.Delivers keymap) (deadline : Float) : (e.take deadline).Delivers keymap := by
  obtain ⟨hkeymap, hkeys, hqueue, hput, hlength⟩ := h
  unfold Exchange.take
  split
  · exact ⟨hkeymap, hkeys, hqueue, hput, hlength⟩
  · rename_i rest hmark
    rw [hmark] at hkeys hqueue hlength
    exact ⟨hkeymap, hkeys, Nat.le_of_succ_le hqueue, hput,
      fun code atRead hstage => Nat.le_of_succ_le (hlength code atRead hstage)⟩
  · rename_i k rest hkey
    rw [hkey] at hkeys hqueue hlength
    refine ⟨hkeymap, ?_, Nat.le_of_succ_le hqueue, hput,
      fun code atRead hstage => Nat.le_of_succ_le (hlength code atRead hstage)⟩
    rw [List.append_assoc]
    exact hkeys

end Delivers

/-- **A step keeps the law of delivery.** -/
theorem Step.delivers (hstep : Step e next) (h : e.Delivers keymap) : next.Delivers keymap := by
  obtain ⟨hkeymap, hkeys, hqueue, hput, hlength⟩ := h
  cases hstep with
  | look =>
    refine ⟨hkeymap, hkeys, hqueue, hput, ?_⟩
    dsimp only
    split <;> exact nofun
  | read =>
    refine ⟨hkeymap, hkeys, hqueue, hput, ?_⟩
    rintro _ _ ⟨⟩
    exact Nat.le_refl _
  | handle hstage hroom => exact Delivers.handle ⟨hkeymap, hkeys, hqueue, hput, hlength⟩ hstage hroom
  | take => exact Delivers.take ⟨hkeymap, hkeys, hqueue, hput, hlength⟩ _
  | begin | stop => exact ⟨hkeymap, hkeys, hqueue, hput, hlength⟩

/-! ## The wish to quit comes last -/

/-- The last of some characters asks to quit, and none before it. -/
def EndsAsking (receipts : List Receipt) : Prop :=
  ∃ before r, receipts = before ++ [r] ∧ (∀ r ∈ before, asksToQuit r.code = false) ∧
    asksToQuit r.code = true

/-- **How far a wish to quit has come.** -/
inductive Quitting (e : Exchange) : Prop where
  /-- No character that the reader has dealt with asks to quit. -/
  | unasked (hreceipts : ∀ r ∈ e.receipts, asksToQuit r.code = false)
    (hqueue : none ∉ e.input.queue) (hanswers : true ∉ e.answers)
  /-- The reader has ended; its mark is the last entry of the queue. -/
  | queued (hended : e.stage = .ended) (hreceipts : EndsAsking e.receipts)
    (hqueue : ∃ keys : List Digit, e.input.queue = keys.map some ++ [none])
    (hanswers : true ∉ e.answers)
  /-- The reader has ended; a poll has found the mark, after which the queue is empty. -/
  | answered (hended : e.stage = .ended) (hreceipts : EndsAsking e.receipts)
    (hqueue : e.input.queue = []) (hanswers : true ∈ e.answers)

namespace Quitting

/-- A reader that has not ended has not been asked. -/
theorem unasked_of_ne (h : e.Quitting) (hstage : e.stage ≠ .ended) :
    (∀ r ∈ e.receipts, asksToQuit r.code = false) ∧ none ∉ e.input.queue ∧ true ∉ e.answers := by
  cases h with
  | unasked hreceipts hqueue hanswers => exact ⟨hreceipts, hqueue, hanswers⟩
  | queued hended | answered hended => exact absurd hended hstage

/-- A queue without a mark holds keys only. -/
theorem exists_keys_of_not_mem {queue : List QueueEntry} (h : none ∉ queue) :
    ∃ keys : List Digit, queue = keys.map some := by
  induction queue with
  | nil => exact ⟨[], rfl⟩
  | cons entry rest ih =>
    rw [List.mem_cons, not_or] at h
    obtain ⟨keys, rfl⟩ := ih h.2
    obtain ⟨k, rfl⟩ := Option.ne_none_iff_exists'.1 (Ne.symm h.1)
    exact ⟨k :: keys, rfl⟩

/-- What the reader does brings a wish to quit into the queue, or leaves it unasked. -/
theorem handle (h : e.Quitting) (hstage : e.stage = .holding code atRead) :
    (e.handle code atRead).Quitting := by
  obtain ⟨hreceipts, hqueue, hanswers⟩ := h.unasked_of_ne (by rw [hstage]; exact nofun)
  have hall (hquit : asksToQuit code = false) :
      ∀ r ∈ e.receipts ++ [⟨code, atRead, e.input.queue.length⟩], asksToQuit r.code = false :=
    List.forall_mem_append.2 ⟨hreceipts, List.forall_mem_singleton.2 hquit⟩
  obtain ⟨hquit, hhandle⟩ | ⟨hquit, k, -, hhandle⟩ | ⟨hquit, -, hhandle | hhandle⟩ :=
    e.handle_cases code atRead <;> rw [hhandle]
  · obtain ⟨keys, hkeys⟩ := exists_keys_of_not_mem hqueue
    exact .queued rfl ⟨e.receipts, _, rfl, hreceipts, hquit⟩ ⟨keys, by rw [hkeys]⟩ hanswers
  · exact .unasked (hall hquit) (e.input.none_not_mem_enqueue hqueue k) hanswers
  · exact .unasked (hall hquit) hqueue hanswers
  · exact .unasked (hall hquit) hqueue hanswers

/-- A poll that finds the mark answers that the user wishes to quit, and leaves nothing behind. -/
theorem take (h : e.Quitting) (deadline : Float) : (e.take deadline).Quitting := by
  unfold Exchange.take
  split
  · rename_i hempty
    cases h with
    | unasked hreceipts hqueue hanswers =>
      exact .unasked hreceipts hqueue (by simp [hanswers])
    | queued _ _ hqueue =>
      obtain ⟨keys, hkeys⟩ := hqueue
      simp [hempty] at hkeys
    | answered hended hreceipts hqueue hanswers =>
      exact .answered hended hreceipts hqueue (List.mem_append_left _ hanswers)
  · rename_i rest hmark
    cases h with
    | unasked _ hqueue => simp [hmark] at hqueue
    | queued hended hreceipts hqueue =>
      obtain ⟨keys, hkeys⟩ := hqueue
      cases keys with
      | nil =>
        rw [hmark, List.map_nil, List.nil_append] at hkeys
        exact .answered hended hreceipts (List.cons.inj hkeys).2 (by simp)
      | cons => simp [hmark] at hkeys
    | answered _ _ hqueue => simp [hmark] at hqueue
  · rename_i k rest hkey
    cases h with
    | unasked hreceipts hqueue hanswers =>
      exact .unasked hreceipts (by simpa [hkey] using hqueue) hanswers
    | queued hended hreceipts hqueue hanswers =>
      obtain ⟨keys, hkeys⟩ := hqueue
      cases keys with
      | nil => simp [hkey] at hkeys
      | cons first keys =>
        rw [hkey, List.map_cons, List.cons_append] at hkeys
        exact .queued hended hreceipts ⟨keys, (List.cons.inj hkeys).2⟩ hanswers
    | answered _ _ hqueue => simp [hkey] at hqueue

end Quitting

/-- **A step keeps the wish to quit last.** -/
theorem Step.quitting (hstep : Step e next) (h : e.Quitting) : next.Quitting := by
  cases hstep with
  | look hstage | read hstage =>
    obtain ⟨hreceipts, hqueue, hanswers⟩ := h.unasked_of_ne (by rw [hstage]; exact nofun)
    exact .unasked hreceipts hqueue hanswers
  | handle hstage => exact h.handle hstage
  | begin | stop =>
    cases h with
    | unasked hreceipts hqueue hanswers => exact .unasked hreceipts hqueue hanswers
    | queued hended hreceipts hqueue hanswers => exact .queued hended hreceipts hqueue hanswers
    | answered hended hreceipts hqueue hanswers => exact .answered hended hreceipts hqueue hanswers
  | take => exact h.take _

/-- Nothing is read after a character that asks to quit. -/
theorem Quitting.forall_codes (h : e.Quitting) :
    ∀ code ∈ e.codes.dropLast, asksToQuit code = false := by
  have hcodes {receipts : List Receipt} (h : ∀ r ∈ receipts, asksToQuit r.code = false) :
      ∀ code ∈ receipts.map Receipt.code, asksToQuit code = false := by
    simpa using h
  unfold codes
  cases h with
  | unasked hreceipts =>
    intro code hcode
    apply hcodes hreceipts
    cases hstage : e.stage with
    | holding =>
      rw [hstage, Stage.inHand, List.dropLast_concat] at hcode
      exact hcode
    | looking | waiting | ended =>
      rw [hstage, Stage.inHand, List.append_nil] at hcode
      exact List.dropLast_subset _ hcode
  | queued hended hreceipts | answered hended hreceipts =>
    obtain ⟨before, r, hreceipts, hbefore, -⟩ := hreceipts
    rw [hended, hreceipts, Stage.inHand, List.append_nil, List.map_append, List.map_singleton,
      List.dropLast_concat]
    exact hcodes hbefore

/-- A wish to quit that has been dealt with has ended the reader. -/
theorem Quitting.ended (h : e.Quitting) {r : Receipt} (hr : r ∈ e.receipts)
    (hquit : asksToQuit r.code = true) : e.stage = .ended := by
  cases h with
  | unasked hreceipts => exact absurd (hreceipts r hr) (by rw [hquit]; exact nofun)
  | queued hended | answered hended => exact hended

/-! ## A reader that has been told to stop -/

/-- The reader has ended, or has been told to stop and is not waiting for a character. -/
def Silent (e : Exchange) : Prop :=
  e.stage = .ended ∨ e.input.stopping = true ∧ e.stage ≠ .waiting

/-- A reader that will not wait again stays so. -/
theorem Step.silent (hstep : Step e next) (h : e.Silent) : next.Silent := by
  obtain hended | ⟨hstopping, hstage⟩ := h
  · left
    cases hstep with
    | look hstage | read hstage | handle hstage => nomatch hstage.symm.trans hended
    | begin | stop => exact hended
    | take => exact (e.take_rest _).1.trans hended
  · obtain ⟨hnext, hwaits⟩ := hstep.stopping hstopping
    exact .inr ⟨hnext, fun hwaiting => hstage (hwaits hwaiting)⟩

/-- **A reader that has been told to stop and does not wait reads nothing more.** -/
theorem Leads.codes_eq (h : Leads e later) (hsilent : e.Silent) : later.codes = e.codes := by
  have hboth : later.Silent ∧ later.codes = e.codes := by
    induction h with
    | refl => exact ⟨hsilent, rfl⟩
    | tail _ hstep ih =>
      obtain ⟨hnow, hcodes⟩ := ih
      refine ⟨hstep.silent hnow, ?_⟩
      obtain hsame | ⟨hwaiting, -⟩ := hstep.codes_eq_or
      · exact hsame.trans hcodes
      · obtain hended | ⟨-, hstage⟩ := hnow
        · nomatch hwaiting.symm.trans hended
        · exact absurd hwaiting hstage
  exact hboth.2

/-- **A reader that has been told to stop** reads no more than the character it is waiting for. -/
theorem Leads.codes_eq_or (h : Leads e later) (hstopping : e.input.stopping = true) :
    later.codes = e.codes ∨ e.stage = .waiting ∧ ∃ code, later.codes = e.codes ++ [code] := by
  induction h using Relation.ReflTransGen.head_induction_on with
  | refl => exact .inl rfl
  | head hstep hrest ih =>
    obtain ⟨hnext, hwaits⟩ := hstep.stopping hstopping
    obtain hsame | ⟨hwaiting, hpast, code, hread⟩ := hstep.codes_eq_or
    · obtain hcodes | ⟨hwaiting, code, hcodes⟩ := ih hnext
      · exact .inl (hcodes.trans hsame)
      · exact .inr ⟨hwaits hwaiting, code, by rw [hcodes, hsame]⟩
    -- it has read the character, and does not wait again
    · have hquiet := Leads.codes_eq hrest (.inr ⟨hnext, hpast⟩)
      exact .inr ⟨hwaiting, code, hquiet.trans hread⟩

/-! ## Every interleaving -/

/-- **Runs keep the law of delivery**, and the wish to quit last. -/
theorem Leads.delivers (h : Leads (start keymap) e) : e.Delivers keymap ∧ e.Quitting := by
  induction h with
  | refl => exact ⟨.start keymap, .unasked (List.forall_mem_nil _) List.not_mem_nil List.not_mem_nil⟩
  | tail _ hstep ih => exact ⟨hstep.delivers ih.1, hstep.quitting ih.2⟩

/-- **What a reader and its polls pass on.**  Whatever the order of their steps, the keys that polls
have taken out, followed by those still queued, are the keys of the characters read, in the order of
reading, without those for which sixteen entries left no room: they were there when the character was
read, and no poll has taken one out since.

Negative numbers stand for no key; a character other than ESC and CTRL-C stands for a key exactly if
it has the same lower-case form as the key's field.  The reader ends at the first ESC or CTRL-C.  A
poll answers that the user wishes to quit only once all keys before that have been taken, and once the
mark is queued the next poll does.  A reader that has been told to stop and does not wait reads nothing
more; told at any time, it reads at most the character it is waiting for.

From everywhere on the way a poll, with the keys it takes and its answer, is a further run of the steps,
and so is a reader on a list of characters. -/
theorem delivery {text : String} (hkeymap : Keymap.parse text true = .ok keymap)
    (h : Leads (start keymap) e) :
    let keys := e.receipts.filterMap (·.key? keymap)
    let asked := ∃ r ∈ e.receipts, asksToQuit r.code = true
    (e.taken ++ e.input.queue.reduceOption = keys ∧ e.input.queue.length ≤ capacity ∧
      capacity = 16 ∧ ∀ r ∈ e.receipts, r.atPut ≤ r.atRead) ∧
    (∀ code < 0, keymap.typed? code = none) ∧
    (∀ code k, asksToQuit code = false → (keymap.typed? code = some k ↔
      ∃ field named, (Keymap.fields text)[k.val]? = some field ∧
        Text.readInteger? field = some named ∧ lowerCode code = lowerCode named)) ∧
    ((∀ code, asksToQuit code = true ↔ code = 27 ∨ code = 3) ∧
      (∀ code ∈ e.codes.dropLast, asksToQuit code = false) ∧ (asked → e.stage = .ended)) ∧
    (true ∈ e.answers → asked ∧ e.taken = keys) ∧
    (asked → true ∉ e.answers →
      ∀ keypad begun emptied, (e.input.poll keypad begun emptied).2.2 = true) ∧
    (e.Silent → ∀ later, Leads e later → later.codes = e.codes) ∧
    (∀ later, Leads { e with input := e.input.stop } later →
      later.codes = e.codes ∨ e.stage = .waiting ∧ ∃ code, later.codes = e.codes ++ [code]) ∧
    (e.deadline? = none → ∀ keypad begun emptied, Leads e (e.polled keypad begun emptied)) ∧
    (e.stage = .looking → ∀ codes, (e.input.readAll codes).input.queue.length ≤ capacity →
      e.ReadsOn codes) := by
  intro keys asked
  obtain ⟨hdelivers, hquitting⟩ := h.delivers
  refine ⟨⟨hdelivers.keys_eq, hdelivers.queue_le, rfl, hdelivers.atPut_le⟩,
    fun code hcode => Keymap.typed?_of_neg hcode,
    fun code k hquit => Keymap.typed?_eq_some_iff_of_parse hkeymap hquit,
    ⟨fun code => asksToQuit_iff, hquitting.forall_codes,
      fun ⟨r, hr, hquit⟩ => hquitting.ended hr hquit⟩,
    fun hanswer => ?_, fun hasked hanswer keypad begun emptied => ?_,
    fun hsilent later hlater => hlater.codes_eq hsilent,
    fun later hlater => hlater.codes_eq_or rfl, leads_polled, fun hstage codes => readsOn hstage⟩
  · cases hquitting with
    | unasked _ _ hnone | queued _ _ _ hnone => exact absurd hanswer hnone
    | answered _ hends hempty =>
      obtain ⟨before, r, hreceipts, -, hquit⟩ := hends
      refine ⟨⟨r, by simp [hreceipts], hquit⟩, ?_⟩
      have hkeys := hdelivers.keys_eq
      rw [hempty, List.reduceOption_nil, List.append_nil] at hkeys
      exact hkeys
  · cases hquitting with
    | unasked hnone =>
      obtain ⟨r, hr, hquit⟩ := hasked
      rw [hnone r hr] at hquit
      nomatch hquit
    | queued _ _ hqueue =>
      obtain ⟨keys, hqueue⟩ := hqueue
      exact e.input.drain_eq_true_iff.2 (by simp [hqueue])
    | answered _ _ _ htrue => exact absurd htrue hanswer

/-- The reader reads a capital `X` and then ESC on the usual keymap: a poll takes key 0 and answers that
the user wishes to quit. -/
theorem delivery_capital_escape :
    let keymap : Keymap := ⟨[120, 49, 50, 51, 113, 119, 101, 97, 115, 100, 122, 99, 52, 114, 102,
      118].zip (List.finRange 16)⟩
    let reading := (TerminalInput.start keymap).readAll [88, 27]
    Keymap.parse Keymap.usual true = .ok keymap ∧ reading.count = 2 ∧
      ∀ keypad begun emptied, ∃ e, Leads (start keymap) e ∧ e.codes = [88, 27] ∧
        e.input = (reading.input.poll keypad begun emptied).1 ∧ e.answers = [true] ∧
        e.taken = [0] ∧ e.receipts.filterMap (·.key? keymap) = [0] := by
  intro keymap reading
  have hparse : Keymap.parse Keymap.usual true = .ok keymap := rfl
  refine ⟨hparse, rfl, fun keypad begun emptied => ?_⟩
  -- the reader alone
  obtain ⟨-, -, -, -, -, -, -, -, -, hreads⟩ := delivery hparse .refl
  obtain ⟨stage, receipts, hread, hcount, hcodes, -⟩ := hreads rfl [88, 27] (by decide)
  obtain ⟨-, -, -, ⟨-, -, hended⟩, -⟩ := delivery hparse hread
  rw [← hcount] at hcodes
  replace hcodes : receipts.map Receipt.code = [88, 27] := hcodes
  have hasked : ∃ r ∈ receipts, asksToQuit r.code = true := by
    have hmem : (27 : Int) ∈ receipts.map Receipt.code := by simp [hcodes]
    obtain ⟨r, hr, hcode⟩ := List.mem_map.1 hmem
    exact ⟨r, hr, by rw [hcode]; rfl⟩
  obtain rfl : stage = .ended := hended hasked
  -- and then a poll alone
  obtain ⟨-, -, -, -, -, -, -, -, hpoll, -⟩ := delivery hparse hread
  have hpolled := hread.trans (hpoll rfl keypad begun emptied)
  obtain ⟨-, -, -, -, hquit, -⟩ := delivery hparse hpolled
  refine ⟨_, hpolled, (List.append_nil _).trans hcodes, rfl, rfl, rfl, ?_⟩
  exact (hquit (List.mem_singleton.2 rfl)).2.symm

end ChipEight.Exchange
