import SurfaceBridge.Unicode.MappingTable

set_option autoImplicit false

/-! # Composed characters

A character that is made of others, a base and a mark, and the order of marks on one base. Only
characters that are valid in domain names are listed. Korean syllables are made by a rule.
-/

namespace SurfaceBridge

namespace Unicode

/-- The composed characters, with the two characters that each is made of. -/
def compositions : MappingTable := MappingTable.ofLines
  ["68=2p.lc 0=2p.ld 0=2p.le 0=2p.lf 0=2p.lk 0=2p.lm 1=2r.mf 0=2t.lc 0=2t.ld 0=2t.le 0=2t.lk",
   "0=2x.lc 0=2x.ld 0=2x.le 0=2x.lk 1=32.lf 0=33.lc 0=33.ld 0=33.le 0=33.lf 0=33.lk 2=39.lc",
   "0=39.ld 0=39.le 0=39.lk 0=3d.ld 1=3d.lk 1=2p.lg 1=2p.li 1=2p.mg 1=2r.ld 1=2r.le 1=2r.lj",
   "1=2r.lo 1=2s.lo 3=2t.lg 1=2t.li 1=2t.lj 1=2t.mg 1=2t.lo 1=2v.le 1=2v.li 1=2v.lj 1=2v.mf",
   "1=2w.le 3=2x.lf 1=2x.lg 1=2x.li 1=2x.mg 5=2y.le 1=2z.mf 2=30.ld 1=30.mf 1=30.lo 5=32.ld",
   "1=32.mf 1=32.lo 4=33.lg 1=33.li 1=33.ln 3=36.ld 1=36.mf 1=36.lo 1=37.ld 1=37.le 1=37.mf",
   "1=37.lo 1=38.mf 1=38.lo 3=39.lf 1=39.lg 1=39.li 1=39.lm 1=39.ln 1=39.mg 1=3b.le 1=3d.le",
   "2=3e.ld 1=3e.lj 1=3e.lo y=33.m3 e=39.m3 t=2p.lo 1=2x.lo 1=33.lo 1=39.lo 1=70.lg 1=70.ld",
   "1=70.lo 1=70.lc 2=6c.lg 1=fb.lg 1=6e.lg 3=2v.lo 1=2z.lo 1=33.mg 1=dn.lg 1=ia.lo 0=2y.lo",
   "4=2v.ld 3=32.lc 1=6d.ld 1=6e.ld 1=6w.ld 1=2p.lr 1=2p.lt 1=2t.lr 1=2t.lt 1=2x.lr 1=2x.lt",
   "1=33.lr 1=33.lt 1=36.lr 1=36.lt 1=39.lr 1=39.lt 1=37.me 1=38.me 3=2w.lo 7=2p.lj 1=2t.mf",
   "1=6u.lg 1=6t.lg 1=33.lj 1=fj.lg 1=3d.lg 9o=qy.ld r=q9.ld 0=qd.ld 0=qf.ld 0=qh.ld 0=qz.ld",
   "p=qh.lk 0=qt.lk 0=qn.ld 0=qt.ld 0=qx.ld 2y=u0.li m=tx.lc 0=tx.lk 1=tv.ld 3=uu.lk 4=u2.ld",
   "0=u0.lc 0=ub.li o=vp.lr 22=ty.li e=ts.li 1=ts.lk 3=tx.li 3=yh.lk 1=ty.lk 1=tz.lk 3=u0.lg",
   "1=u0.lk 1=u6.lk 3=yx.lk 1=ul.lk 1=ub.lg 1=ub.lk 1=ub.ln 1=uf.lk 3=uj.lk 88=17r.18z",
   "0=17r.190 0=18o.190 0=17r.191 0=18q.190 49=1cl.190 1=1c1.190 g=1ci.190 gl=1t4.1to",
   "7=1tc.1to 2=1tf.1to 46=1xj.1xa 0=1xj.1xz aj=287.28m 2=287.27y 0=287.28n 1z=2aa.2c7",
   "1h=2bq.2bi 0=2br.2bi 0=2bq.2c7 3f=2fa.2fq 3b=2in.2j9 6=2iu.2j9 0=2iu.2ja 1=2iu.2iq",
   "0=2iy.2j9 3i=2me.2m6 0=2mf.2m6 0=2me.2mv 3x=2qh.2q2 1=2qh.2q7 0=2qk.2q2 0=2qh.2qn",
   "g7=36t.372 25b=5c5.5dh 1=5c7.5dh 1=5c9.5dh 1=5cb.5dh 1=5cd.5dh 3=5ch.5dh 14=5dm.5dh",
   "1=5do.5dh 2=5dq.5dh 0=5dr.5dh 1=5du.5dh jh=2p.md 1=2q.lj 1=2q.mb 1=2q.mp 1=6f.ld 1=2s.lj",
   "1=2s.mb 1=2s.mp 1=2s.mf 1=2s.ml 1=7n.lc 1=7n.ld 1=2t.ml 1=2t.mo 1=fd.li 1=2u.lj 1=2v.lg",
   "1=2w.lj 1=2w.mb 1=2w.lk 1=2w.mf 1=2w.mm 1=2x.mo 1=6n.ld 1=2z.ld 1=2z.mb 1=2z.mp 1=30.mb",
   "1=5yv.lg 1=30.mp 1=30.ml 1=31.ld 1=31.lj 1=31.mb 1=32.lj 1=32.mb 1=32.mp 1=32.ml 1=6t.ld",
   "1=6t.lk 1=99.lc 1=99.ld 1=34.ld 1=34.lj 1=36.lj 1=36.mb 1=5zv.lg 1=36.mp 1=37.lj 1=37.mb",
   "1=9n.lj 1=9t.lj 1=603.lj 1=38.lj 1=38.mb 1=38.mp 1=38.ml 1=39.mc 1=39.mo 1=39.ml 1=a1.ld",
   "1=a3.lk 1=3a.lf 1=3a.mb 1=3b.lc 1=3b.ld 1=3b.lk 1=3b.lj 1=3b.mb 1=3c.lj 1=3c.lk 1=3d.lj",
   "1=3e.le 1=3e.mb 1=3e.mp 0=2w.mp 0=38.lk 0=3b.lm 0=3d.lm 7=2p.mb 1=2p.ll 1=6a.ld 1=6a.lc",
   "1=6a.ll 1=6a.lf 1=61t.le 1=77.ld 1=77.lc 1=77.ll 1=77.lf 1=61t.li 1=2t.mb 1=2t.ll",
   "1=2t.lf 1=6i.ld 1=6i.lc 1=6i.ll 1=6i.lf 1=62h.le 1=2x.ll 1=2x.mb 1=33.mb 1=33.ll 1=6s.ld",
   "1=6s.lc 1=6s.ll 1=6s.lf 1=631.le 1=bl.ld 1=bl.lc 1=bl.ll 1=bl.lf 1=bl.mb 1=39.mb 1=39.ll",
   "1=c0.ld 1=c0.lc 1=c0.ll 1=c0.lf 1=c0.mb 1=3d.lc 1=3d.mb 1=3d.ll 1=3d.lf 6=q9.lv 0=q9.lw",
   "0=64g.lc 0=64h.lc 0=64g.ld 0=64h.ld 0=64g.n6 0=64h.n6 8=qd.lv 0=qd.lw 0=64w.lc 0=64x.lc",
   "0=64w.ld 0=64x.ld a=qf.lv 0=qf.lw 0=65c.lc 0=65d.lc 0=65c.ld 0=65d.ld 0=65c.n6 0=65d.n6",
   "8=qh.lv 0=qh.lw 0=65s.lc 0=65t.lc 0=65s.ld 0=65t.ld 0=65s.n6 0=65t.n6 8=qn.lv 0=qn.lw",
   "0=668.lc 0=669.lc 0=668.ld 0=669.ld a=qt.lv 0=qt.lw 0=66o.lc 0=66p.lc 0=66o.ld 0=66p.ld",
   "0=66o.n6 0=66p.n6 8=qx.lv 0=qx.lw 0=674.lc 0=675.lc 0=674.ld 0=675.ld 0=674.n6 0=675.n6",
   "8=q9.lc 1=qd.lc 1=qf.lc 1=qh.lc 1=qn.lc 1=qt.lc 1=qx.lc 1f=q9.li 0=q9.lg 4=q9.n6 f=qf.n6",
   "9=qh.li 0=qh.lg 0=qy.lc 3=qh.n6 0=qy.n6 8=qt.li 0=qt.lg 0=qz.lc 1=qp.lv 0=qp.lw 0=qt.n6",
   "0=qz.n6 e=qx.n6 bn=6mo.mw 0=6mq.mw i=6ms.mw u=6og.mw 0=6ok.mw 0=6oi.mw 1g=6pv.mw",
   "4=6q0.mw 2=6q3.mw n=6qr.mw 1=6qt.mw q=6rg.mw 2=6rn.mw 2=6rp.mw 1=6rs.mw m=1p.mw 1=6sh.mw",
   "a=6rx.mw 0=1o.mw 0=1q.mw 0=6sk.mw 0=6sl.mw 2=6sy.mw 0=6sz.mw 2=6t2.mw 0=6t3.mw 6=6t6.mw",
   "0=6t7.mw 2=6te.mw 0=6tf.mw 2=6ti.mw 0=6tj.mw y=6ua.mw 0=6ug.mw 0=6uh.mw 0=6uj.mw",
   "1c=6t8.mw 0=6t9.mw 0=6tt.mw 0=6tu.mw 6=6uq.mw 0=6ur.mw 0=6us.mw 0=6ut.mw 2n2=9jf.9ll",
   "1=9jh.9ll 1=9jj.9ll 1=9jl.9ll 1=9jn.9ll 1=9jp.9ll 1=9jr.9ll 1=9jt.9ll 1=9jv.9ll",
   "1=9jx.9ll 1=9jz.9ll 1=9k1.9ll 2=9k4.9ll 1=9k6.9ll 1=9k8.9ll 6=9kf.9ll 0=9kf.9lm",
   "1=9ki.9ll 0=9ki.9lm 1=9kl.9ll 0=9kl.9lm 1=9ko.9ll 0=9ko.9lm 1=9kr.9ll 0=9kr.9lm",
   "m=9ja.9ll 9=9lp.9ll d=9m3.9ll 1=9m5.9ll 1=9m7.9ll 1=9m9.9ll 1=9mb.9ll 1=9md.9ll",
   "1=9mf.9ll 1=9mh.9ll 1=9mj.9ll 1=9ml.9ll 1=9mn.9ll 1=9mp.9ll 2=9ms.9ll 1=9mu.9ll",
   "1=9mw.9ll 6=9n3.9ll 0=9n3.9lm 1=9n6.9ll 0=9n6.9lm 1=9n9.9ll 0=9n9.9lm 1=9nc.9ll",
   "0=9nc.9lm 1=9nf.9ll 0=9nf.9lm m=9ly.9ll 2=9nz.9ll 0=9o0.9ll 0=9o1.9ll 0=9o2.9ll",
   "3=9od.9ll 1616=1fpu.lj q=1fq2.lj 245=1huh.1hve 1=1huj.1hve e=1hut.1hve 3m=1hyp.1hyf",
   "0=1hyq.1hyf ez=1idj.1ida 0=1idj.1idz 1i=1if6.1ih5 1=1if8.1igr 8=1iff.1igy 2=1ifk.1ih5",
   "1f=1igy.1igy 1=1igy.1igo 0=1igy.1ih5 6q=1int.1inu 0=1int.1ink 1=1int.1inx 6z=1iuw.1iun",
   "0=1iux.1iun os=1jjp.1jjk e7c=1xr2.1xr2 0=1xr2.1xrd 0=1xr2.1xr3 0=1xrd.1xr3 0=1xr2.1xr4",
   "0=1xr5.1xr3 0=1xr6.1xr3 0=1xr5.1xr4 2f3=206f.206f 0=206b.206f 0=206h.206f"]

/-- The marks of each combining class other than 0. -/
def combiningTables : List (Nat × RangeTable) := [
  (1, RangeTable.ofLines ["ms-4 523 d-6 rt-1 4-2 a-1 3-1 1a31 j3q-4 g4p 43s-2"]),
  (6, RangeTable.ofLines ["20og-1"]),
  (7, RangeTable.ofLines ["1to 3j 3j 3j 3j 73 3j oq 264 4x 28 ry3 kcm 54 2e 2z 4y 29-1 7d 3g 70 6u aq 7c se 14av"]),
  (8, RangeTable.ofLines ["9ll-1"]),
  (9, RangeTable.ofLines ["1u5 3j 3j 3j 3j 3j 3j 3j 31-1 g 3g 33 3j 5l 50-1 1cp-1 u 4d i5 6b 2t-1 1y-1 3gr o7a 11",
    "47 3y 30 8l 6u imp 16u 15 e 1l 3d-1 3v 38 50 2q 6s 3j 70 3j 3a 38 7h 77-1 4h 2b i 29 bp",
    "78-1 29 bt-1"]),
  (10, RangeTable.ofLines ["14g"]),
  (11, RangeTable.ofLines ["14h"]),
  (12, RangeTable.ofLines ["14i"]),
  (13, RangeTable.ofLines ["14j"]),
  (14, RangeTable.ofLines ["14k"]),
  (15, RangeTable.ofLines ["14l"]),
  (16, RangeTable.ofLines ["14m"]),
  (17, RangeTable.ofLines ["14n"]),
  (18, RangeTable.ofLines ["14o e"]),
  (19, RangeTable.ofLines ["14p-1"]),
  (20, RangeTable.ofLines ["14r"]),
  (21, RangeTable.ofLines ["14s"]),
  (22, RangeTable.ofLines ["14t"]),
  (23, RangeTable.ofLines ["14v"]),
  (24, RangeTable.ofLines ["14x"]),
  (25, RangeTable.ofLines ["14y"]),
  (26, RangeTable.ofLines ["1dlq"]),
  (27, RangeTable.ofLines ["18r is"]),
  (28, RangeTable.ofLines ["18s is"]),
  (29, RangeTable.ofLines ["18t is"]),
  (30, RangeTable.ofLines ["17c 1h"]),
  (31, RangeTable.ofLines ["17d 1h"]),
  (32, RangeTable.ofLines ["17e 1h"]),
  (33, RangeTable.ofLines ["18x"]),
  (34, RangeTable.ofLines ["18y"]),
  (35, RangeTable.ofLines ["19s"]),
  (36, RangeTable.ofLines ["1e9"]),
  (84, RangeTable.ofLines ["2fp"]),
  (91, RangeTable.ofLines ["2fq"]),
  (103, RangeTable.ofLines ["2t4-1"]),
  (107, RangeTable.ofLines ["2tk-3"]),
  (118, RangeTable.ofLines ["2wo-1"]),
  (122, RangeTable.ofLines ["2x4-3"]),
  (129, RangeTable.ofLines ["31t"]),
  (130, RangeTable.ofLines ["31u 7-3 2"]),
  (132, RangeTable.ofLines ["31w"]),
  (202, RangeTable.ofLines ["m9-1 4-1 59j"]),
  (214, RangeTable.ofLines ["5vy"]),
  (216, RangeTable.ofLines ["m3 2e5 2gx7-1 7-4"]),
  (218, RangeTable.ofLines ["5x6 3lb"]),
  (220, RangeTable.ofLines ["ly-3 2-4 2-3 2-a 5-3 a-2 3-1 4-3 2-1 fq 4 4 6-5 2 q 3z-1 5 2 3n 6 2 1v 2 2-2 1-1 1 3 1",
    "1 1 4p a 2j-2 1p-2 1f-4 f 2 2 3-2 6 2-1 2f 151-1 r 1 3y 5i 1pp 64 2u 1h-5 2 1-1 2-1 5",
    "4h a0-4 2-3 d 5w 7 4 15 3 1 ko 3-3 qwr-2 au ghe-6 r3 6a 1f0 18 4r t2-2 1y-1 3 1-3 1e 1",
    "12b9-7 7-1 3tu rl-6"]),
  (222, RangeTable.ofLines ["13u i 3uz 4j7"]),
  (224, RangeTable.ofLines ["9im-1"]),
  (226, RangeTable.ofLines ["2jxp"]),
  (228, RangeTable.ofLines ["14e 3qy 11p-1 3le"]),
  (230, RangeTable.ofLines ["lc-k 14-2 2 3 3-2 3-2 4 3 7-c 7n-4 7e-3 1-2 2-5 6-1 1-1 2 k 23-7 1n-1 2-4 1-1 3b-6 2-3",
    "1 2-1 2-1 1v 1-1 1-1 3 2 1-2 1 1 1 1-1 4g-6 1 y-3 1-8 1-2 1-4 2y 3-3 16-4 5-d 2-1 1-1",
    "1-2 6-2 1-1 2-4 29 1-1 4p 137-1 2-1 r9-2 vx 9o 64 2l-7 1f-4 6-1 4-1 2-4 1-3 4c 1-6 9o-2",
    "7-1 4 j 3-1 5i-1 1-6 1-1 4-10 5 2 k1-1 2-3 3-1 4 5 1 6 2da-2 6m-v nsf 4-9 w-1 28-1 dq-h",
    "ce 1-1 3-1 5-1 1 ggu-6 7-1 11i-4 1as 14 4s fy-3 ar-1 4b-2 1 1h 1 aj-2 gz-6 3-4 6h h5d-6",
    "k7i-4 w-3 44-2 2pn-6 1-g 2-6 1-1 1-4 2s 4g-6 af 1p-3 e7 us-5"]),
  (232, RangeTable.ofLines ["lx 4 1p 599 3lh 2e9r-1"]),
  (233, RangeTable.ofLines ["nw 2 2 595"]),
  (234, RangeTable.ofLines ["nx-1 1-1 57v"])]

/-- The combining class of a character. Marks of different classes may stand in either order. -/
def combiningClass (c : Nat) : Nat :=
  if c < 0x300 then 0
  else
    match combiningTables.find? fun t => t.2.contains c with
    | none => 0
    | some (value, _) => value

end Unicode

end SurfaceBridge
