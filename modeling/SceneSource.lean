import SceneSource.Session
import SceneSource.Value.Order
import SceneSource.Proofs.Accounting
import SceneSource.Proofs.Requests
import SceneSource.Proofs.Fields
import SceneSource.Proofs.Overrides
import SceneSource.Proofs.JsonText
import SceneSource.Proofs.BoundingSizes
import SceneSource.Proofs.Colors
import SceneSource.Proofs.Leaves
import SceneSource.Proofs.Settled
import SceneSource.Proofs.ReadBack
import SceneSource.Proofs.Configuration
import SceneSource.Proofs.WireTypes
import SceneSource.Proofs.Conversions
import SceneSource.Proofs.Taxonomy
import SceneSource.Proofs.SizeGrammar
import SceneSource.Proofs.FlagLeaves
import SceneSource.Proofs.SizeRoundTrip
import SceneSource.Proofs.CropEntries
import SceneSource.Proofs.FieldEntries
import SceneSource.Proofs.Durations
import SceneSource.Proofs.NumeralGrammar
import SceneSource.Proofs.Channels
import SceneSource.Proofs.ColorCodec
import SceneSource.Proofs.PathTexts
import SceneSource.Proofs.PathFields
import SceneSource.Proofs.FlagPacking
import SceneSource.Proofs.Warnings
import SceneSource.Proofs.EmbeddedText
import SceneSource.Proofs.Agreement
import SceneSource.Proofs.EqualPayloads
import SceneSource.Proofs.Histograms
