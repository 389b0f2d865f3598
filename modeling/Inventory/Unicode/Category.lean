import Inventory.Unicode.Table
/-!
# General categories

Every code point has one general category of Unicode 17.0, named by two letters: `Lu`
(upper-case letter), `Ll`, `Lt`, `Lm`, `Lo`, the marks `Mn`, `Mc`, `Me`, the numbers `Nd`,
`Nl`, `No`, the punctuation `Pc`, `Pd`, `Ps`, `Pe`, `Pi`, `Pf`, `Po`, the symbols `Sm`, `Sc`,
`Sk`, `So`, the separators `Zs`, `Zl`, `Zp`, and the others `Cc` (controls), `Cf` (format),
`Cs` (surrogates), `Co` (private use) and `Cn` (unassigned). The first letter names the major
class.
-/

set_option autoImplicit false

namespace Inventory.Unicode

/-- The categories, in the order the table numbers them. -/
def categoryNames : List String :=
  ["Cn", "Lu", "Ll", "Lt", "Lm", "Lo", "Mn", "Mc", "Me", "Nd", "Nl", "No", "Pc", "Pd", "Ps", "Pe",
    "Pi", "Pf", "Po", "Sm", "Sc", "Sk", "So", "Zs", "Zl", "Zp", "Cc", "Cf", "Cs", "Co"]

/-- The category of every code point, as a run table with one letter per value. -/
def categoryText : String := String.join [
  "M0J20y1G3y1u3v1y1z1y1t1y1p2yaz2y3h2u1ay1v1H1s1H1i1u1az1v1z1M1J21y1G1I4y1H1I1l1w1z1N1I1H1I1z1r1H2",
  "i1y1H2r1l1x1r1y3h1z17h1i7z18i1h8i1h1i1h1i1h1i1h1i1h1i1h1i1h1i1h1i1h1i1h1i1h1i1h1i1h1i1h1i1h1i1h1",
  "i1h1i1h1i1h1i1h1i1h1i1h1i1h1i1h1i1h1i1h1i1h1i1h2i1h1i1h1i1h1i1h1i1h1i1h1i1h1i1h2i1h1i1h1i1h1i1h1",
  "i1h1i1h1i1h1i1h1i1h1i1h1i1h1i1h1i1h1i1h1i1h1i1h1i1h1i1h1i1h1i1h1i1h1i1h1i1h1i2h1i1h1i1h3i2h1i1h1",
  "i2h1i3h2i4h1i2h1i3h3i2h1i2h1i1h1i1h1i2h1i1h2i1h1i2h1i3h1i1h1i2l2h1i1l3h4j1i1h1j1i1h1j1i1h1i1h1i1",
  "h1i1h1i1h1i1h1i1h1i1h1i1h2i1h1i1h1i1h1i1h1i1h1i1h1i1h1i1h1i1h2j1i1h1i1h1i3h1i1h1i1h1i1h1i1h1i1h1",
  "i1h1i1h1i1h1i1h1i1h1i1h1i1h1i1h1i1h1i1h1i1h1i1h1i1h1i1h1i1h1i1h1i1h1i1h1i1h1i1h1i1h1i1h1i1h1i1h7",
  "i2h1i2h2i1h1i4h1i1h1i1h1i1h1i1l45i2k1aH12k4HckeH5k7H1k1H1m11h70i1h1i1k1H1h1i1g1k2i1y3h1g1H4h2y1h",
  "1g3h1g1h1i2h1g11h1i9h23i1h2i3h3i1h1i1h1i1h1i1h1i1h1i1h1i1h1i1h1i1h1i1h1i1h1i1h5i1z1h1i1h1i2h2i33",
  "h30i1h1i1h1i1h1i1h1i1h1i1h1i1h1i1h1i1h1i1h1i1h1i1h1i1h1i1h1i1h1i1h1i1I1m1o5h2i1h1i1h1i1h1i1h1i1h",
  "1i1h1i1h1i1h1i1h1i1h1i1h1i1h1i1h1i1h1i1h1i1h1i1h1i1h1i1h1i1h1i1h1i1h1i1h1i1h1i1h1i1h1i1h1i2h1i1h",
  "1i1h1i1h1i1h1i1h1i1h2i1h1i1h1i1h1i1h1i1h1i1h1i1h1i1h1i1h1i1h1i1h1i1h1i1h1i1h1i1h1i1h1i1h1i1h1i1h",
  "1i1h1i1h1i1h1i1h1i1h1i1h1i1h1i1h1i1h1i1h1i1h1i1h1i1h1i1h1i1h1i1h1i1h1i1h1i1h1i1h1i1h1i1h1i1h1i1h",
  "1i1h1i1h1i1h1i1h1i1g1h1g26k2y1i6y29t1g1I2G2g1m1t2dm1y1m1y2m1y2m1g1l8g1bl4y4g2Nbz6y3G2y1I2m2ybN1y",
  "1l3k20l1map15yal4m2l1y63l1m1N7I1m1k6m2I2m1l4p2laI3l2y1geN1l1m1l1m1eg1bl2m59lbg1pelam21k9I2y1k3g1",
  "m2G1l2m16k4m1k9m1k3m1g5y2gfl1m19g3y2g1l1gbl5H18l1N7g2m5l9k29m1N18m1n20l1m36n1m1l1n1m3n8m4n1l2m1l",
  "7may2p2yak1l1mfn1g2l1g8l2g2l2g16l1g7l1g1l3g4m2l1n1m3g4n2g2n2m2l1g1n8g1l4g2l1m3g2p2laG2r2I6G1l1y1",
  "m1g1m2n2g1l1g6l4g2l2g16l1g7l1g2l1g2l1g2m2g1n1m3g2m4g2m2g3m3g1l7g4l1g1p7mal2m3y1g1man2g1l1g9l1g3l",
  "1g16l1g7l1g2l1g5m2l1n1m3g5m1n2g1n1m2g1l2g1lfm2g2p2yaG1g1l7m1g6m1n1g2l1g8l2g2l2g16l1g7l1g2l1g5m2l",
  "1n1m1n1m1g4n2g2n2m2g1m7n2g1l4g2l1m3g2p2Ial1r1g6mal1g1l1g6l3g3l1g4l3g2l1g1l1g2l3g2l3g3l3gcn4m2n1g",
  "2n3g3n1m3g1l2g1n6g1peraI3G6I1g1m5n1m3l1g8l1g3l1g17l1g10m2l1m1n3g4m1g3m1g4m7g2l1g3l1g2l2m2g2p2gay",
  "7r1I7l1m1n1y2l1g8l1g3l1g17l1gal1g5m2l1n1m1n1g5m1n1g2n1m2g2n7g2l5g3l1m2g2p2gal1n2g1mcn2l2g9l1g3l1",
  "m29l2n1m3g4n1g3n1m3l1I1g1l4n3r1l7m3g2p2raI9l1g6m1n1g2l1g12l3g18l1g9l1g1l2g7m3g1n4m3g3m1g1n1g8p6g",
  "an2y2g1lcm30l1m2g7G4l1k6m1y8p1yag2l25g2l1g1l1g5l1g18l1g1l1mal1m2l9g1l2g5k1g1m1g7p1gal2g4l20I1y3I",
  "fy1I1m3I2p6raIam1I1m1I1m1u1v1u1v1n1l2g8l1g24m4nem1y5m1l2m5gbm1g24I1m8I1g6I1y2I5y4g2l25n2bm2n4m1n",
  "6m1n2m2l2p1yal6n6m2l2m4l3n1l3n2l7m3l4mdn1m2n2m6l1n1p1nam3I1h2g26h1g1h5g1i2y2bk1i1l3g149l1g4l2g7l",
  "1g1l1g4l2g29l1g4l2g21l1g4l2g7l1g1l1g4l2gfl1g39l1g4l2g43m2y3r9g14l3I10gah6g56i2g6t2l1I26cy1l1J11l",
  "1u1av1g1l3y4bq3l3g8l7m12n3g1l9m13n2y1g2l9m12g2lcgdl1g3m1g2lcm34n2m1n7m8n1m2ybk3y1G3l1m1g1p2gar6g",
  "ay6t6y1m4N3m1p1gal6k23l1g35l7m5l2m22l1g1l5g46lag1fm1n3m4n2g3n4m2n1m6g3I4g1y3p2lag1el2g5lbg2cl4g1",
  "ap6rag1I3l22m17n2m2g1y2l2n35m1n1m1g7m1n1m1n1m2n8m6gam2p1gap6gay6k7y1g6m2oem1g1fm2gcm14n4l1m2fn1m",
  "1n5m1n1m5n1l2g8y1p2yaI7maI9y9m3n2l1n1em1n4m2n2m1l3p2lam2cn1m1n2m3n1m1n3g2y8l4n24m8n8m2g2y3p5gal3",
  "p3lak1ey6i2h9i1g1h5g2bh2y3g8m8y3m1ndm1l7m4l1m6l1n2m1l2g1i5k2ci3fkdi1k22m25h40i1h1i1h1i1h1i1h1i1h",
  "1i1h1i1h1i1h1i1h1i1h1i1h1i1h1i1h1i1h1i1h1i1h1i1h1i1h1i1h1i1h1i1h1i1h1i1h1i1h1i1h1i1h1i1h1i1h1i1h",
  "1i1h1i1h1i1h1i1h1i1h1i1h1i1h1i1h1i1h1i1h1i1h1i1h1i1h1i1h1i1h1i1h1i1h1i1h1i1h1i1h1i1h1i1h1i1h1i1h",
  "1i1h1i1h1i1h1i1h1i1h1i1h1i1h1i1h1i1h1i1h1i1h1i1h1i1h1i1h1i1h1i1h1i1h1i1h1i1h1i1h1i1h1i1h9i1h1i1h",
  "1i1h1i1h1i1h1i1h1i1h1i1h1i1h1i1h1i1h1i1h1i1h1i1h1i1h1i1h1i1h1i1h1i1h1i1h1i1h1i1h1i1h1i1h1i1h1i1h",
  "1i1h1i1h1i1h1i1h1i1h1i1h1i1h1i1h1i1h1i1h1i1h1i1h1i1h1i1h1i1h1i1h1i1h1i1h1i1h1i1h1i1h1i1h1i1h9i8g",
  "6h2g6i2h8i8h8i8g6h2g6i2g8h1g1h1g1h1g1h1i1h8i8gei2j8i8j8i8j8i8g5i1h2j4H1i1H1i3g3i1h2j4H1i3g4i2h2g",
  "4H1i3h8H5g3i2g3i1h2j4H1g2J1Nbt5y6w2x1u1w1x2u1w1y1K8L1N1J5y1w9x1y1s4y2z3u1v1y1zby1s1y1JaN1g5N1rak",
  "1g1r2z6u3v1k1r1zau3v1g1k1gdG3g22meodm4o1m3gcIfh2I1h4I1i2h1i3h2i3I1h1I1z2h1I5h6I1h1I1h1I1h1I4i1h1",
  "i4l1i4I1i2h2z2h5i1I4z1I1i2I1r1q10h23i1q1r4I1g2z4I5z5I2z4I1z2I1z2I1z7I1z1fI2z2I1z1I1z1fI10cu8v1u1",
  "v1I1z14I2u7v1I1z51I1z1eI19z28I6g48I16gbr15I3cr4eI16zb7I1z9I1z36I8z6fI1uf8v1u1v1u1v1u1v1u1v1u1v1u",
  "1v1r1I1ez2cu5v1z1u1fv1u1v1u1v1u1v1u1v1z1I10z100u83v1u1v1u1v1u1v1u1v1u1v1u1v1u1v1u1v1u1v1u1v1z1u3",
  "fv1u1v1z1u20v1z1I102z30I15z2I6g27I2h8ai30h30i1h1i3h2i1h1i1h1i1h1i4h1i1h2i1k6h2i3h1i1h1i1h1i1h1i1",
  "h1i1h1i1h1i1h1i1h1i1h1i1h1i1h1i1h1i1h1i1h1i1h1i1h1i1h1i1h1i1h1i1h1i1h1i1h1i1h1i1h1i1h1i1h1i1h1i1",
  "h1i1h1i1h1i1h1i1h1i1h1i1h1i1h1i1h1i1h1i1h1i1h1i1h1i1h1i1h1i1h1i1h1i1h1i1h1i1h1i1h1i1I2h6i1h1i1m1",
  "h3i1g1y5r4y1i2g26i1g1i5g1l2g38k7y1g1mel1g17l9g7l1g7l1g7l1g7l1g7l1g7l1g7l1g7m1y20w2x1w1x1y1w3x1y1",
  "w1x1y1t9y1t2y1w1x1y1w2x1u1v1u1v1u1v1u1v1y1k5y1tay2t4y1u1y1Idy2u3v1u1v1u1v1u1v1t1g1I22g1aI1g59Icg",
  "d6I1aJ10y1I3k1l1q1u1v1u1v1u1v1u1v1u1v1I1u2v1u1v1u1v1u1v1t1u1v1I2q1m9n4t2k1I5q2k3l1y1I1g2l1g56m2H",
  "2k2l2t1l1y5ak1l3g1l5g2bl1g5eI1r2I4laI20g26I9l1I10g1fr1Iar1eI8r1Ifr20Iar27Ifl140I19c0l40k5215l1g4",
  "77I3g37l9k28y6l2k10cy1l3p10lag2h14i1h1i1h1i1h1i1h1i1h1i1h1i1h1i1h1i1h1i1h1i1h1i1h1i1h1i1h1i1h1i1",
  "h1i1h1i1h1i1h1i1h1i1h1i1h1i1l1m1o1y3m1yak1h1i1h1i1h1i1h1i1h1i1h1i1h1i1h1i1h1i1h1i1h1i1h1i1h1i1h1",
  "i1k1m2l2q46may2g6H8k17H9h2i1h1i1h1i1h1i1h1i1h1i1h1i1h3i1h1i1h1i1h1i1h1i1h1i1h1i1h1i1h1i1h1i1h1i1",
  "h1i1h1i1h1i1h1i1h1i1h1i1h1i1h1i1h1i1h1i1h1i1h1i1h1i1h1i1h1i1h1i1h1i1h1i1h1i1h1i1k1i1h8i1h1i1h1i2",
  "h1i1h1i1h1i1h1i1k1H1h2i1h1i1l1h1i1h1i1h3i1h1i1h1i1h1i1h1i1h1i1h1i1h1i1h1i1h1i1h1i5h1i5h1i1h1i1h1",
  "i1h1i1h1i1h1i1h1i1h1i4h1i1h1i2h1i1h1i1h1i1h1i1h1i1h1i1h1i1h1g1k14h4i1l1k1i2l1m7l1m3l1m4l1n17m2n2",
  "I1m4g1r3I6G2I1g1l6y34g4n8l2n32m10g2y8p2gam6l12y6l3y1l1m2p1lam1cy8l2m17nbg2ybl1g1dm3n3l1m2fn1m2n4",
  "m2n2y3gdk1p1gay4l2m5k1l1p9lag5l1m29n6m2n2m2g2l9m3l1m8n1g1p2gay2l4k10l1I6l3n1m1n1l1m32l1m1l3m2l2m",
  "5l2m1l1g1l18k2y1l2nbm1n2y2l2k1n2m1g1lag6l2g6l2g6l9g7l1g7i1H2bk1i4k9H1g2i4l50n23m2n1m2n1y2n1m1g1p",
  "2gal6g2ba4lcg17l4g31O4P800l1900g16el2g6ai26g7icg5l5m1l1zal1gdl1g5l1g1l1g2l1g2l1H6cI11l10v16bu1I1",
  "l10I40l2I36g8l20GcI1m3y10u7v1y1g1m6y10t1s2u2v1u1v1u1v1u1v1u1v1u1v1u1v1u1v1y1u2v1y1s4y3g3y1t4u1v1",
  "u1v1u1v1y1z3t1z1g3y1G1y1g2l4g5l1g87N2g1y1G3y1u3v1y1z1y1t1y1p2yaz2y3h2u1ay1v1H1s1H1i1u1az1v1z1u1v",
  "1y1u1v1y1l2kal1k2dl2g1fl3g6l2g6l2g6l2g3G3z2H1I1G1g2I1z1I4g2NaI3g2l2gcl1g1al1g13l1g2l1gfl2gel22g7",
  "by5g3r4g2dI3q9r35I4r11I2g3I1gdI3g1I2fm2dg1l82g1dl3g31mfr1g1bl4r20g4l9q14l1q8g1l5m26g5l5g1ey1l1g2",
  "4l4y8q1g5h2ai28l28g4ep2gah6g24i4g24l4g28l8g34ybh1gbh1gfh1g7h1g2i1gbi1gfi1g7i1g2l3g34lcg137l9g16l",
  "ag8k18g6k1g2ak1g9l45g6l2g1l1g2cl1g2l3g1l2g17y1r1l8I17r2l7g1fr8g9l30g13l1g2r5l5r16g6y3l1g1ay5l1g1",
  "al26g38r4l2r2g10r2l2em1g3m1g2m5l4g4l1g3l1g1dm2g3m4r1g9y7g9l7r1dy2l1r1dg3l20I8l1m1cg2r4y5g7l9g36y",
  "3l7g16r2l8g13r5l8g12y7g4rcg7l50g49h37g33idg33r7l6m24g4p8gap6lak4l1h1g16m3t5k1i1g16z8g2rd0g1fl1g2",
  "am1t2g1l2g2l10k3l1g2y8I1g8m21l6r1dlag1l8m16rby4g5l16m12y4g4l26r15g7l14g17n9m1n1l1m35yfg7r4p14mal",
  "1m2l2g1m9n3l1n2dm3n4m2y2N2y1m4g1Nag1l2g19p7gam6l3m24n5m1g8p1yal4n1l2g1l8m23y1l2g1m9n2l1n30m3n9l2",
  "y4m4y4n1m1p1lay1l1y1g3r1g14lbg12l1n19m3n3m2n1m1y2m6l1m2g1l3eg7l1g1l1g4l1gfl1yag1l6m2fn1m3g8p5gam",
  "6n2g2l1g8l2g2l2g16l1g7l1g2l1g5m1l2n1m2n1g4n2g2n2g3l2g1n6g1l5n5g2m2g7m3g5lbgal1g1l2g1l1g26l1n1m3g",
  "6n1g1n2g1n1g4n1m2n1m1l1m1l1y1g2y1g2m8g2l1dn35m3n8m2n3m1l1y4p5yag2y1m1l1g3l1en30m3n6m1n1m4n2m1l2y",
  "2l1g1p8gala6n2fm3g4n2m4n2m1y2l17m4g2l22n30m3n8m2n1m1y2l3g1pbgay6gdl13m2bn1m1n1m2n6m1l1y1g1p6gap6",
  "g14l1cg1bm2n1m1n1m2n4m1g5p4ray2I3l1g7lb9n2cm3n9m1y2g1h64i20p20rag9lcg8l2g1l2g8l1g2l1n18g6n1g2m2n",
  "2m1l1n1l1n1m1y1g3p9gal46g8l2n27m3g4m2n2m4l1y1l1n1g1l1bm1lam28n6l1m1y4m8g1l8m1n6m2l3m2endm1y2l3y1",
  "g5ldg49y7gam56n1m1n3m1n1g1l58y21g1pegal6g9l1n25m1g7m1n6m1l1y1g5parag13y3l2g1em2g16n1m1n7m1n2m1g2",
  "l49g7l1g2l1m26g6m3g1m1g2m1l7m1g1p8gal6g6l1g2l1n20g5m1g2n1m2n1m1l1g1p7gal6k29l1g2p4galf6m13n2y2g2",
  "m7l2n1l1gdl1n22m2g5n3m2n1m1y1pdmag1l55g1rfI15G8I4g11ydl1g39aq66g6fy1g5lbgc4la4cy61g2ldN430m10l1m",
  "6gflagf9bl5g247l1ab9m1encm3p3gal6c6g239l7g1fp1gay4l2g4fp1gal6g1em2y5g1lam30y7I5k4y4I1g1pagar1g7l",
  "1g15l5g13k1b0l3k28y2p3gahc6i20r20y17g4h5g19i2g19l2cg4bm4l1n1g37m7k4gdk40y2k1m1g1nbk2q2g3l9g1cd6l",
  "29g20l61g73k21fdg4k1g7k1g2l1g123lfg1l1dg3l2g1leg4l8g18cl904g6bl5gdl3g9l7gaI2m1y2N1g4If5cpf0Iag3I",
  "3g1b4I6g17Ifz10g1mfg2em2g17I9g74I3cgf6Iag27I2n3cm2I3n3N6m8I8m2I7m1eI4g3dI15m42I3g1r7ag14rcg14Icg",
  "57r9g19h87i1ah1ai1ag7i1h12i1ah1ag1h1g2h2g1h2g2h2g4h1i8g4i1g1i1g7i1hbi1ah1ag2h1g4h2g8h1g7i1h1ag2h",
  "1g4h1g5h1g1h3g7i1h1ai1ah1ai1ah1ai1ah1ai1ah1ai1ah1ai1ag1ch2z19i1z19i1h6z19i1z19i1h6z19i1z19i1h6z1",
  "9i1z19i1h6z19i1z19i1h6i1g1p2I32m200I37m4I32m8I1meI1y2g5mfg5m1gfi450lai1g14i6g6md5g7m1g11m2g7m1g2",
  "m1g5k5g3em21g1l70g2dm3k7g7p2gal4I1g1l140m1eg1l11m2cp4gaG5g1l1d0k1bm1p4gald6m1el2p1gay4g1lc0g1fl1",
  "m3l1m2l1m7l2m5g1l8k1g1le0g7l1g4l1g2l1gfl1gc5r2m9g7h29i22m22k7g1p4gay4g2r311I3br1G3r1g4r4cI2dr1gf",
  "lc2g4l1g1bl1g2l1g1l2g1l1gal1g4l1g1l1g1l6g1l4g1l1g1l1g1l1g3l1g2l1g1l2g1l1g1l1g1l1g1l1g1l1g2l1g1l2",
  "g4l1g7l1g4l1g4l1g1l1gal1g11l5g3l1g5l1g11z34g2I10eg2cI4g64IcgfI2gfI1gfI1g25raIdga1I38g1dIdg2cI4g9",
  "I7g2Ieg6I9aHfbI5g2d9I3g11I3gdI3gdaI6gcI4g1IfgcI4g38I8gaI6g28I8g1eI2gcI4g2zeg9I27g158I8geI2gdI3gb",
  "I3g39I1g1I4g10I2gcI4gaI7g93I1p5cIag1l405ga6e0l20g111el2g168el2g1d31lfg26el9a2g21el5e2g134bl5g212",
  "aNacb87g1N1eg60m80gf0Pfe10gfffeP2gfffe"]
/-- The category runs. -/
def categoryRuns : Array (Nat × Nat) := readRuns categoryText

/-- **The general category** of a code point. -/
def category (cp : Nat) : String := categoryNames.getD (valueAt categoryRuns cp) "Cn"

/-- The code points whose category is among the given ones. -/
def categoryRanges (names : List String) : Ranges :=
  rangesWhere categoryRuns fun i => names.contains (categoryNames.getD i "")

/-- The code points whose category lies in a major class. -/
def classRanges (major : Char) : Ranges :=
  categoryRanges (categoryNames.filter fun n => n.toList.head? == some major)

end Inventory.Unicode
