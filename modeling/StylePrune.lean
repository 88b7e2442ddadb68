import StylePrune.Json.Shape
import StylePrune.Split.Basic
import StylePrune.Usage.Tokens
import StylePrune.FlexBasis
import StylePrune.Sheet.Text
import StylePrune.Sheet.UrlTokens
import StylePrune.Page.Href
import StylePrune.Usage.Prune
import StylePrune.Config.SupportedBrowsers
import StylePrune.Config.Load
import StylePrune.Split.Index
import StylePrune.Url.Parse
import StylePrune.Page.StyleLinks
import StylePrune.CommandLine.Basic
import StylePrune.Fetch.Transfer
import StylePrune.Main
import StylePrune.Proofs.Outline.Grammar
import StylePrune.Proofs.Outline.Scan
import StylePrune.Proofs.Outline.Closure
import StylePrune.Proofs.Split.Groups
import StylePrune.Proofs.Split.Effective
import StylePrune.Proofs.Text.Runs
import StylePrune.Proofs.Usage.Tokens
import StylePrune.Proofs.Usage.Selectors
import StylePrune.Proofs.Resolution.Pool
import StylePrune.Proofs.Resolution.Session
import StylePrune.Proofs.Split.Stability
import StylePrune.Proofs.Usage.Pruning
import StylePrune.Proofs.Usage.Applies
import StylePrune.Proofs.Run.SplitOutput
import StylePrune.Proofs.Resolution.Joined
import StylePrune.Proofs.Resolution.Admission
import StylePrune.Proofs.Run.Purging
import StylePrune.Proofs.Files.Frame
import StylePrune.Proofs.Run.Directory
import StylePrune.Proofs.Run.Ending
import StylePrune.Proofs.Outline.Extension
import StylePrune.Proofs.Resolution.Leak
import StylePrune.Proofs.Usage.LayerOrder
import StylePrune.Proofs.Resolution.Sources
import StylePrune.Proofs.Page.LinkTags
import StylePrune.Proofs.Usage.Absorption
import StylePrune.Proofs.Config.Loading
import StylePrune.Proofs.Run.Messages
import StylePrune.Proofs.Split.Address
import StylePrune.Proofs.Usage.Remains
import StylePrune.Proofs.Split.Partition
import StylePrune.Proofs.Outline.Coverage
import StylePrune.Proofs.Outline.Bytewise
import StylePrune.Proofs.Text.WordCase
import StylePrune.Proofs.Split.Naming
import StylePrune.Proofs.Text.Folding
import StylePrune.Proofs.FlexBasis.Segments
import StylePrune.Proofs.FlexBasis.Value
import StylePrune.Proofs.FlexBasis.Settled
import StylePrune.Proofs.FlexBasis.Minified
import StylePrune.Proofs.Outline.Modes
import StylePrune.Proofs.FlexBasis.Strings
import StylePrune.Proofs.Fetch.Download
import StylePrune.Proofs.Usage.Backtracking
import StylePrune.Proofs.Url.Resolve
import StylePrune.Proofs.Sheet.Written
import StylePrune.Proofs.Sheet.Rewritten
import StylePrune.Proofs.Files.Sequence
import StylePrune.Proofs.Resolution.Overrides
