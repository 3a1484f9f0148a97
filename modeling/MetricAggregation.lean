import MetricAggregation.Double.Number
import MetricAggregation.Engine.Run
import MetricAggregation.MockClock
import MetricAggregation.Proofs.Engine.Update
import MetricAggregation.Proofs.Table
import MetricAggregation.ScopedTimer
import MetricAggregation.Setup
import MetricAggregation.Proofs.Engine.Isolation
import MetricAggregation.Proofs.Engine.Acceptance
import MetricAggregation.Proofs.Engine.Attribution
import MetricAggregation.Proofs.ExactNumber
import MetricAggregation.Proofs.Engine.Conservation
import MetricAggregation.Proofs.Engine.TimerRate
import MetricAggregation.Proofs.Packing
import MetricAggregation.Proofs.Utf8
import MetricAggregation.Proofs.Engine.Presence
import MetricAggregation.Proofs.Engine.Independence
import MetricAggregation.Proofs.Engine.Interleaving
import MetricAggregation.Proofs.Engine.Layout
import MetricAggregation.Proofs.Lines
import MetricAggregation.Proofs.Engine.UnbrokenPaths
import MetricAggregation.Proofs.Engine.Enumeration
import MetricAggregation.Proofs.Engine.Forgetting
import MetricAggregation.Proofs.Engine.Scopes
import MetricAggregation.Proofs.Sample
import MetricAggregation.Proofs.Deliveries
import MetricAggregation.Proofs.Engine.KnownKeys
import MetricAggregation.Proofs.Engine.Accounting
import MetricAggregation.Proofs.HeapOrder
import MetricAggregation.Proofs.Landmark
import MetricAggregation.Proofs.Percentile
import MetricAggregation.Proofs.Uniformity
import MetricAggregation.Proofs.Recording
import MetricAggregation.Proofs.TimerCoherence
import MetricAggregation.Proofs.DistinctWindows
import MetricAggregation.Proofs.OrderedNumber
import MetricAggregation.Proofs.SlidingWindow
import MetricAggregation.Proofs.KeyNormalization
import MetricAggregation.Proofs.Trimming
import MetricAggregation.Proofs.MessageGrammar
import MetricAggregation.Proofs.Engine.Packets
import MetricAggregation.Proofs.Engine.DirectUpdates
import MetricAggregation.Proofs.TimerCoverage
import MetricAggregation.Proofs.OrderStatistics
import MetricAggregation.Proofs.Deviations
import MetricAggregation.Proofs.Extremes
import MetricAggregation.Proofs.WholeSamples
import MetricAggregation.Proofs.MovingAverage
import MetricAggregation.Proofs.RuleGrammar
import MetricAggregation.Proofs.ReversibleHash
import MetricAggregation.Proofs.RuleNumbers
import MetricAggregation.Proofs.Schedule
import MetricAggregation.Proofs.CounterRate
