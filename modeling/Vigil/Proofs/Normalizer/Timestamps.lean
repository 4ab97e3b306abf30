import Vigil.Normalizer.Basic
import Vigil.Proofs.Normalizer.LastWriter
import Vigil.Proofs.Timestamp.Moments
import Vigil.Proofs.Timestamp.Ticks

/-! # The timestamp of the common form

Bringing an event into the common form fails on its timestamp only, and what is written are the ticks up to
the moment that it names, without an error.

* `TimestampSource.read_eq_error`, `TimestampSource.read_eq_ok`: what is wrong with a timestamp
  (`Refuses`), and what is written for it (`Stamps`);
* `Normalizer.normalize_eq_error`, `Normalizer.lookup_timestamp`: the common form of an event;
* `Normalizer.normalize_fails_iff`: both of them;
* `Normalizer.timestamps_ordered`: the order of two events, and that of their timestamps. -/

namespace Vigil

namespace TimestampSource

/-- What is wrong with the timestamp of an event from a source: it is not there; it is no text; the text is no
timestamp in the format; or the ticks up to the moment that it names do not fit 64 bits. -/
inductive Refuses (t : TimestampSource) (source : String) (r : Event) : NormalizationError → Prop
  | missing (hr : r.find? t.field = none) : Refuses t source r (.missingTimestamp t.field source)
  | noText {v : Value} (hformat : t.format ≠ "filetime") (hr : r.find? t.field = some v)
    (hv : ∀ s, v ≠ .text s) : Refuses t source r (.invalidTimestamp (.value v) t.format)
  | unreadable {s : String} (hformat : t.format ≠ "filetime")
    (hr : r.find? t.field = some (.text s)) (hs : Timestamp.moment? t.format s = none) :
    Refuses t source r (.invalidTimestamp (.text s) t.format)
  | tooFar {s : String} {m : Moment} {k : Int} (hformat : t.format ≠ "filetime")
    (hr : r.find? t.field = some (.text s)) (hs : Timestamp.moment? t.format s = some m)
    (hk : m.IsTicks k) (hfits : ¬ FitsInt64 k) :
    Refuses t source r (.invalidTimestamp (.value (.text s)) t.format)

/-- What is written for the timestamp of an event: a value that is kept, or the ticks. -/
inductive Stamps (t : TimestampSource) (r : Event) : Value → Prop
  | kept {v : Value} (hformat : t.format = "filetime") (hr : r.find? t.field = some v) :
    Stamps t r v
  | counted {s : String} {m : Moment} {i : Int64} (hformat : t.format ≠ "filetime")
    (hr : r.find? t.field = some (.text s)) (hs : Timestamp.moment? t.format s = some m)
    (hi : m.IsTicks i.toInt) : Stamps t r (.scalar (.int i))

variable {t : TimestampSource} {source : String} {r : Event} {v : Value} {e : NormalizationError}

/-- The ticks up to a moment that a text names. -/
theorem isTicks_iff_of_moment? {format s : String} {m : Moment} {k : Int}
    (h : Timestamp.moment? format s = some m) : m.IsTicks k ↔ k = m.ticks :=
  Moment.isTicks_iff (Timestamp.isMoment_of_moment? h).day

theorem text?_eq_none (hv : ∀ s, v ≠ .text s) : v.text? = none := by
  rcases htext : v.text? with _ | s
  · rfl
  · exact absurd (Value.eq_text_of_text? htext) (hv s)

theorem read_of_find? (hr : r.find? t.field = some v) : t.read source r = t.convert v := by
  rw [read, hr]

theorem convert_of_no_text (hformat : t.format ≠ "filetime") (hv : v.text? = none) :
    t.convert v = .error (.invalidTimestamp (.value v) t.format) := by
  simp only [convert, hv]
  exact if_neg hformat

theorem convert_text (hformat : t.format ≠ "filetime") (s : String) :
    t.convert (.text s) = match Timestamp.moment? t.format s with
      | none => .error (.invalidTimestamp (.text s) t.format)
      | some m =>
        match m.ticks? with
        | none => .error (.invalidTimestamp (.value (.text s)) t.format)
        | some i => .ok (.scalar (.int i)) :=
  if_neg hformat

theorem read_of_refuses (h : t.Refuses source r e) : t.read source r = .error e := by
  cases h with
  | missing hr => rw [read, hr]
  | noText hformat hr hv => rw [read_of_find? hr, convert_of_no_text hformat (text?_eq_none hv)]
  | unreadable hformat hr hs =>
    rw [read_of_find? hr, convert_text hformat]
    simp only [hs]
  | tooFar hformat hr hs hk hfits =>
    rw [(isTicks_iff_of_moment? hs).mp hk, ← Moment.ticks?_eq_none] at hfits
    rw [read_of_find? hr, convert_text hformat]
    simp only [hs, hfits]

theorem read_of_stamps (h : t.Stamps r v) : t.read source r = .ok v := by
  cases h with
  | kept hformat hr =>
    rw [read_of_find? hr]
    exact if_pos hformat
  | counted hformat hr hs hi =>
    rw [isTicks_iff_of_moment? hs, ← Moment.ticks?_eq_some] at hi
    rw [read_of_find? hr, convert_text hformat]
    simp only [hs, hi]

theorem refuses_or_stamps (t : TimestampSource) (source : String) (r : Event) :
    (∃ e, t.Refuses source r e) ∨ ∃ v, t.Stamps r v := by
  rcases hr : r.find? t.field with _ | v
  · exact Or.inl ⟨_, .missing hr⟩
  by_cases hformat : t.format = "filetime"
  · exact Or.inr ⟨v, .kept hformat hr⟩
  rcases htext : v.text? with _ | s
  · exact Or.inl ⟨_, .noText hformat hr (by rintro s rfl; cases htext)⟩
  obtain rfl := Value.eq_text_of_text? htext
  rcases hs : Timestamp.moment? t.format s with _ | m
  · exact Or.inl ⟨_, .unreadable hformat hr hs⟩
  have hk : m.IsTicks m.ticks := (isTicks_iff_of_moment? hs).mpr rfl
  by_cases hfits : FitsInt64 m.ticks
  · rw [← hfits.toInt_ofInt] at hk
    exact Or.inr ⟨_, .counted hformat hr hs hk⟩
  · exact Or.inl ⟨_, .tooFar hformat hr hs hk hfits⟩

theorem read_eq_error : t.read source r = .error e ↔ t.Refuses source r e := by
  refine ⟨fun h => ?_, read_of_refuses⟩
  rcases refuses_or_stamps t source r with ⟨e', he'⟩ | ⟨v, hv⟩
  · cases h.symm.trans (read_of_refuses he')
    exact he'
  · cases h.symm.trans (read_of_stamps hv)

theorem read_eq_ok : t.read source r = .ok v ↔ t.Stamps r v := by
  refine ⟨fun h => ?_, read_of_stamps⟩
  rcases refuses_or_stamps t source r with ⟨e', he'⟩ | ⟨v', hv'⟩
  · cases h.symm.trans (read_of_refuses he')
  · cases h.symm.trans (read_of_stamps hv')
    exact hv'

/-- One value is written at most. -/
theorem Stamps.unique {w : Value} (hv : t.Stamps r v) (hw : t.Stamps r w) : v = w := by
  have hread : t.read "" r = .ok v := read_of_stamps hv
  exact Except.ok.inj (hread.symm.trans (read_of_stamps hw))

end TimestampSource

namespace Normalizer

variable {n : Normalizer} {t : TimestampSource} {r out : Event} {e : NormalizationError}

theorem timestamp?_eq_error :
    n.timestamp? r = .error e ↔ ∃ t, n.timestamp = some t ∧ t.Refuses n.name r e := by
  unfold timestamp?
  rcases n.timestamp with _ | t
  · simp
  · rcases hread : t.read n.name r with e' | v
    · simp [← TimestampSource.read_eq_error, hread, Except.map]
    · simp [← TimestampSource.read_eq_error, hread, Except.map]

/-- Nothing but the timestamp can fail. -/
theorem normalize_eq_error : n.normalize r = .error e ↔ n.timestamp? r = .error e := by
  unfold normalize
  rcases n.timestamp? r with e' | stamp
  · constructor <;> rintro ⟨⟩ <;> rfl
  · constructor <;> rintro ⟨⟩

/-- Nothing is written over the timestamp. -/
theorem lookup_timestamp (ht : n.timestamp = some t) (h : n.normalize r = .ok out) :
    ∃ v, t.Stamps r v ∧ out.fields.lookup "timestamp" = some v := by
  obtain ⟨stamp, hstamp, hout⟩ := bind_eq_ok.mp h
  cases hout
  rw [timestamp?, ht] at hstamp
  obtain ⟨v, hv, rfl⟩ := map_eq_ok.mp hstamp
  refine ⟨v, TimestampSource.read_eq_ok.mp hv, ?_⟩
  have hlookup := Event.lookup_writeAll (k := "timestamp") (n.base r) (n.assignments r (some v))
  rw [hlookup, lookup_assignments, if_pos rfl]
  rfl

theorem exists_normalize {v : Value} (ht : n.timestamp = some t) (hv : t.Stamps r v) :
    ∃ out, n.normalize r = .ok out := by
  have hstamp : n.timestamp? r = .ok (some v) := by
    rw [timestamp?, ht]
    exact map_eq_ok.mpr ⟨v, TimestampSource.read_eq_ok.mpr hv, rfl⟩
  exact ⟨_, bind_eq_ok.mpr ⟨_, hstamp, rfl⟩⟩

/-- **Failing** to bring an event into the common form means that a timestamp is configured and refused, for
the reason that the error names. Otherwise what is written for the timestamp is the value that the event has,
or the exact number of ticks. -/
theorem normalize_fails_iff (n : Normalizer) (r : Event) :
    (∀ e, n.normalize r = .error e ↔ ∃ t, n.timestamp = some t ∧ t.Refuses n.name r e) ∧
    ∀ out, n.normalize r = .ok out → ∀ t, n.timestamp = some t →
      ∃ v, t.Stamps r v ∧ out.fields.lookup "timestamp" = some v :=
  ⟨fun _ => normalize_eq_error.trans timestamp?_eq_error,
    fun _ hout _ ht => lookup_timestamp ht hout⟩

/-- Days and times with a fraction of the second. -/
def clockSource : TimestampSource := ⟨"t", "%Y-%m-%d %H:%M:%S%.f"⟩

/-- A normalizer that writes a timestamp only. -/
def clock : Normalizer := { name := "clock", timestamp := some clockSource }

/-- An event with a timestamp. -/
def eventAt (text : String) : Event := ⟨[("t", .text text)]⟩

theorem stamps_eventAt {text : String} {m : Moment} {i : Int64}
    (hm : Timestamp.moment? clockSource.format text = some m) (hi : i.toInt = m.ticks) :
    clockSource.Stamps (eventAt text) (.scalar (.int i)) :=
  .counted (by decide) rfl hm ((TimestampSource.isTicks_iff_of_moment? hm).mpr hi)

/-- A timestamp one and a half microseconds before the beginning of 1601, one at the beginning of 1970,
and one of a year that is too far off. -/
theorem normalize_fails_iff_negative :
    (∃ out, clock.normalize (eventAt "1600-12-31 23:59:59.9999985") = .ok out ∧
      out.fields.lookup "timestamp" = some (.scalar (.int (-10)))) ∧
    (∃ out, clock.normalize (eventAt "1970-01-01 00:00:00") = .ok out ∧
      out.fields.lookup "timestamp" = some (.scalar (.int 116444736000000000))) ∧
    clock.normalize (eventAt "+40000-01-01 00:00:00") = .error
      (.invalidTimestamp (.value (.text "+40000-01-01 00:00:00")) clockSource.format) := by
  have hnegative : Timestamp.moment? clockSource.format "1600-12-31 23:59:59.9999985" =
      some ⟨⟨1600, 366⟩, 86399, 999998500⟩ := by
    decide
  have hepoch : Timestamp.moment? clockSource.format "1970-01-01 00:00:00" =
      some ⟨⟨1970, 1⟩, 0, 0⟩ := by
    decide
  have hfar : Timestamp.moment? clockSource.format "+40000-01-01 00:00:00" =
      some ⟨⟨40000, 1⟩, 0, 0⟩ := by
    decide
  refine ⟨?_, ?_, ?_⟩
  · have hstamps := stamps_eventAt (i := -10) hnegative (by decide)
    obtain ⟨out, hout⟩ := exists_normalize (n := clock) rfl hstamps
    obtain ⟨v, hv, hlookup⟩ := (normalize_fails_iff clock _).2 out hout clockSource rfl
    exact ⟨out, hout, hv.unique hstamps ▸ hlookup⟩
  · have hstamps := stamps_eventAt (i := 116444736000000000) hepoch (by decide)
    obtain ⟨out, hout⟩ := exists_normalize (n := clock) rfl hstamps
    obtain ⟨v, hv, hlookup⟩ := (normalize_fails_iff clock _).2 out hout clockSource rfl
    exact ⟨out, hout, hv.unique hstamps ▸ hlookup⟩
  · have hticks := (TimestampSource.isTicks_iff_of_moment? hfar).mpr rfl
    exact ((normalize_fails_iff clock _).1 _).mpr
      ⟨clockSource, rfl, .tooFar (by decide) rfl hfar hticks (by decide)⟩

/-! ### The order of timestamps -/

/-- Where the timestamp names a moment, the ticks up to it are written. -/
theorem lookup_ticks {s : String} {m : Moment} (ht : n.timestamp = some t)
    (hformat : t.format ≠ "filetime") (hr : r.find? t.field = some (.text s))
    (hm : Timestamp.moment? t.format s = some m) (h : n.normalize r = .ok out) :
    ∃ i : Int64, out.fields.lookup "timestamp" = some (.scalar (.int i)) ∧ i.toInt = m.ticks := by
  obtain ⟨v, hv, hlookup⟩ := lookup_timestamp ht h
  cases hv with
  | kept hkept => exact absurd hkept hformat
  | @counted s' m' i _ hr' hm' hi =>
    obtain rfl : s = s' := by
      cases hr.symm.trans hr'
      rfl
    obtain rfl : m = m' := Option.some.inj (hm.symm.trans hm')
    exact ⟨i, hlookup, (TimestampSource.isTicks_iff_of_moment? hm).mp hi⟩

/-- **The order of timestamps.** Of two events whose timestamps name moments one after the other, the first
has no more ticks than the second, unless it is in a leap second and the other is in the second that follows,
by a smaller fraction than the leap second has gone on. In that case it has no fewer, and it has more if they
are a microsecond apart. -/
theorem timestamps_ordered {r' out' : Event} {s s' : String} {m m' : Moment}
    (ht : n.timestamp = some t) (hformat : t.format ≠ "filetime")
    (hr : r.find? t.field = some (.text s)) (hr' : r'.find? t.field = some (.text s'))
    (hm : Timestamp.moment? t.format s = some m) (hm' : Timestamp.moment? t.format s' = some m')
    (horder : m'.before m = false) (hout : n.normalize r = .ok out)
    (hout' : n.normalize r' = .ok out') :
    ∃ i i' : Int64, out.fields.lookup "timestamp" = some (.scalar (.int i)) ∧
      out'.fields.lookup "timestamp" = some (.scalar (.int i')) ∧
      (¬ m.Overtakes m' → i ≤ i') ∧
      (m.Overtakes m' → i' ≤ i ∧ (m'.nanosecond + 1000001000 ≤ m.nanosecond → i' < i)) := by
  obtain ⟨i, hlookup, hi⟩ := lookup_ticks ht hformat hr hm hout
  obtain ⟨i', hlookup', hi'⟩ := lookup_ticks ht hformat hr' hm' hout'
  have hmoment := Timestamp.isMoment_of_moment? hm
  have hmoment' := Timestamp.isMoment_of_moment? hm'
  have hle := Moment.nanoseconds_le_iff hmoment hmoment' horder
  refine ⟨i, i', hlookup, hlookup', fun hnot => ?_, fun hovertakes => ⟨?_, fun hapart => ?_⟩⟩
  · rw [Int64.le_iff_toInt_le, hi, hi']
    exact Moment.ticks_le (hle.mpr hnot)
  · have hlater : m'.nanoseconds ≤ m.nanoseconds :=
      Int.le_of_lt (Int.not_le.mp fun h => hle.mp h hovertakes)
    rw [Int64.le_iff_toInt_le, hi, hi']
    exact Moment.ticks_le hlater
  · rw [Int64.lt_iff_toInt_lt, hi, hi']
    exact Moment.ticks_lt hmoment hovertakes.1 hapart

theorem exists_lookup_eventAt {text : String} {m : Moment} {i : Int64}
    (hm : Timestamp.moment? clockSource.format text = some m) (hi : i.toInt = m.ticks) :
    ∃ out, clock.normalize (eventAt text) = .ok out ∧
      out.fields.lookup "timestamp" = some (.scalar (.int i)) := by
  obtain ⟨out, hout⟩ := exists_normalize (n := clock) rfl (stamps_eventAt hm hi)
  obtain ⟨i', hlookup, hi'⟩ := lookup_ticks (n := clock) rfl (by decide) rfl hm hout
  obtain rfl : i = i' := by
    rw [← Int64.toInt_inj, hi, hi']
  exact ⟨out, hout, hlookup⟩

/-- A moment half a second before midnight, and midnight. -/
theorem timestamps_ordered_midnight : ∃ out out' i i',
    clock.normalize (eventAt "2016-12-31 23:59:59.5") = .ok out ∧
      clock.normalize (eventAt "2017-01-01 00:00:00") = .ok out' ∧
      out.fields.lookup "timestamp" = some (.scalar (.int i)) ∧
      out'.fields.lookup "timestamp" = some (.scalar (.int i')) ∧ i ≤ i' := by
  have hm : Timestamp.moment? clockSource.format "2016-12-31 23:59:59.5" =
      some ⟨⟨2016, 366⟩, 86399, 500000000⟩ := by
    decide
  have hm' : Timestamp.moment? clockSource.format "2017-01-01 00:00:00" = some ⟨⟨2017, 1⟩, 0, 0⟩ := by
    decide
  obtain ⟨out, hout, -⟩ := exists_lookup_eventAt (i := 131277023995000000) hm (by decide)
  obtain ⟨out', hout', -⟩ := exists_lookup_eventAt (i := 131277024000000000) hm' (by decide)
  obtain ⟨i, i', hlookup, hlookup', hle, -⟩ :=
    timestamps_ordered (n := clock) rfl (by decide) rfl rfl hm hm' (by decide) hout hout'
  exact ⟨out, out', i, i', hout, hout', hlookup, hlookup', hle fun h => absurd h.2 (by decide)⟩

/-- A leap second that is half over is before the midnight after it, but has more ticks. -/
theorem timestamps_not_ordered : ∃ m m' out out',
    Timestamp.moment? clockSource.format "2016-12-31 23:59:60.5" = some m ∧
      Timestamp.moment? clockSource.format "2017-01-01 00:00:00" = some m' ∧
      m.before m' = true ∧
      clock.normalize (eventAt "2016-12-31 23:59:60.5") = .ok out ∧
      clock.normalize (eventAt "2017-01-01 00:00:00") = .ok out' ∧
      out.fields.lookup "timestamp" = some (.scalar (.int 131277024005000000)) ∧
      out'.fields.lookup "timestamp" = some (.scalar (.int 131277024000000000)) ∧
      ¬ (131277024005000000 : Int64) ≤ 131277024000000000 := by
  have hm : Timestamp.moment? clockSource.format "2016-12-31 23:59:60.5" =
      some ⟨⟨2016, 366⟩, 86399, 1500000000⟩ := by
    decide
  have hm' : Timestamp.moment? clockSource.format "2017-01-01 00:00:00" = some ⟨⟨2017, 1⟩, 0, 0⟩ := by
    decide
  obtain ⟨out, hout, hlookup⟩ := exists_lookup_eventAt (i := 131277024005000000) hm (by decide)
  obtain ⟨out', hout', hlookup'⟩ := exists_lookup_eventAt (i := 131277024000000000) hm' (by decide)
  exact ⟨_, _, out, out', hm, hm', by decide, hout, hout', hlookup, hlookup', by decide⟩

end Normalizer

end Vigil
