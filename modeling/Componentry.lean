import Componentry.Main
import Componentry.Proofs.Checkout.Fetching
import Componentry.Proofs.Command.ExitStatus
import Componentry.Proofs.Component.BaseClass
import Componentry.Proofs.Component.CompoundName
import Componentry.Proofs.Component.DefaultSize
import Componentry.Proofs.Component.Slug
import Componentry.Proofs.Document.ClosingPoints
import Componentry.Proofs.Elixir.FinalForm
import Componentry.Proofs.Elixir.Heredoc
import Componentry.Proofs.Elixir.Sections
import Componentry.Proofs.Elixir.StringLiteral
import Componentry.Proofs.Generation.DiscoveryOrder
import Componentry.Proofs.Generation.DryRun
import Componentry.Proofs.Generation.FailSoft
import Componentry.Proofs.Generation.Filter
import Componentry.Proofs.Markup.AttributeValue
import Componentry.Proofs.Markup.CleanForest
import Componentry.Proofs.Markup.EmptyElements
import Componentry.Proofs.Markup.Entities
import Componentry.Proofs.Markup.Margin
import Componentry.Proofs.Markup.ReferenceNames
import Componentry.Proofs.Markup.RoundTrip
import Componentry.Proofs.Markup.ValueReference
import Componentry.Proofs.Settings.ComponentNames
import Componentry.Proofs.Settings.Loading
import Componentry.Proofs.Yaml.PlainScalars
