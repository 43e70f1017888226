import ReviewBot.Encoding.Chunk
import ReviewBot.Encoding.PullRequest
import ReviewBot.Files.Tree
import ReviewBot.Host.Board
import ReviewBot.Main
import ReviewBot.Proofs.Diff.ChunkForm
import ReviewBot.Proofs.Diff.GitSections
import ReviewBot.Proofs.Diff.PlainSections
import ReviewBot.Proofs.Diff.RowOrder
import ReviewBot.Proofs.Diff.Sections
import ReviewBot.Proofs.Finding.Ranking
import ReviewBot.Proofs.Host.Credentials
import ReviewBot.Proofs.Review.Failures
import ReviewBot.Proofs.Review.FileOrder
import ReviewBot.Proofs.Review.Interleaving
import ReviewBot.Proofs.Review.Places
import ReviewBot.Proofs.Review.Remarks
import ReviewBot.Proofs.Review.Secrets
import ReviewBot.Proofs.Review.Severity
import ReviewBot.Proofs.Rule.LineNumbers
import ReviewBot.Proofs.Webhook.Gate
import ReviewBot.Proofs.Webhook.Signature
import ReviewBot.Proofs.Finding.Ties
import ReviewBot.Proofs.Review.Isolation
import ReviewBot.Proofs.Text.PatternLanguage
import ReviewBot.Proofs.Rule.SecretLanguage
import ReviewBot.Proofs.Review.Counts
import ReviewBot.Proofs.Document.Fields
import ReviewBot.Proofs.Host.Cleanup
import ReviewBot.Proofs.Settings.Key
import ReviewBot.Proofs.Settings.Resolution
import ReviewBot.Proofs.Settings.Rejection
import ReviewBot.Proofs.Finding.Collision
import ReviewBot.Proofs.Review.Accesses
import ReviewBot.Proofs.Report.Sections
import ReviewBot.Proofs.Review.SingleLines
import ReviewBot.Proofs.Diff.BareHeaders
import ReviewBot.Proofs.PullRequest.Reference
